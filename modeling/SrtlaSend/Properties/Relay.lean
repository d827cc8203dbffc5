import SrtlaSend.Lib.SideLane
import SrtlaSend.Properties.ClientDedup
import SrtlaSend.Properties.LinkSteps
import SrtlaSend.Sender.Outputs
import Mathlib.Data.List.DropRight

/-!
# The way back to the client

To the local client the bond is one receiver. `RelayView` is that receiver: it knows the
address of the client and the ACKs and NAKs it has handed over, and decides from the type of
a datagram what becomes of it. The handlers refine it over every run, with the two rings of
hashes in place of the log. What they decide to send the loop sends in that order, but an ACK
that finds the socket busy goes beside it, through the instant forwarding task.
-/

namespace SrtlaSend

open Runs

/-! ### The relay as the client sees it -/

/-- What becomes of traffic of one type. -/
inductive RelayRule
  | consumed
  | once (kind : ReplyKind)
  | always
deriving DecidableEq, Repr

/-- SRTLA's own feedback ends here, and everything that is not an ACK or a NAK of SRT passes. -/
def relayRule (pt : Nat) : RelayRule :=
  if pt = srtTypeAck then .once .ack
  else if pt = srtTypeNak then .once .nak
  else if pt = srtlaTypeAck ∨ pt = srtlaTypeKeepalive then .consumed
  else .always

/-- The address of the client, and the ACKs and NAKs it was handed. -/
structure RelayView where
  client : Option SocketAddr
  handed : List RelayCall

/-- A word from the client, or traffic of an uplink. -/
inductive RelayInput
  | client (src : SocketAddr)
  | traffic (pt : Nat) (bytes : Bytes) (now : Nat)

namespace RelayView

def handedOf (v : RelayView) (kind : ReplyKind) : List RelayCall :=
  v.handed.filter fun d => decide (d.kind = kind)

/-- The same bytes are among the last of their kind and were handed over within the window. -/
def recent (v : RelayView) (c : RelayCall) : Bool :=
  ((v.handedOf c.kind).rtake c.kind.ringSize).any fun d =>
    decide (d.packet = c.packet) && decide (c.nowMs - d.nowMs < c.kind.windowMs)

def step (v : RelayView) : RelayInput → RelayView × List Reply
  | .client src => ({ v with client := some src }, [])
  | .traffic pt bytes now =>
    match v.client, relayRule pt with
    | some client, .always => (v, [(client, bytes)])
    | some client, .once kind =>
      let c : RelayCall := ⟨kind, bytes, now⟩
      if v.recent c then (v, []) else ({ v with handed := v.handed ++ [c] }, [(client, bytes)])
    | _, _ => (v, [])

end RelayView

/-! ### The relay of the handlers -/

namespace Sender

/-- The type of a datagram that is traffic: its uplink is in the bond, the type can be read,
and the registration manager does not take it. -/
def trafficType (s : Sender) (connId : Nat) (bytes : Bytes) (now : Nat) : Option Nat :=
  (s.conns.findIdx? (·.connId == connId)).bind fun idx =>
    (getPacketType bytes).filter fun _ => (s.reg.processRegistrationPacket idx bytes now).2.isNone

/-- What an event is to the relay. -/
def relayInput (s : Sender) : Event → Option RelayInput
  | .data pkt src _ _ _ _ => if pkt.isEmpty then none else some (.client src)
  | .uplink connId bytes env =>
    (s.trafficType connId bytes env.now).map fun pt => .traffic pt bytes env.now
  | _ => none

variable (ext : Externals)

def relayInputs (s : Sender) (es : List Event) : List RelayInput :=
  (history (step ext) s es).filterMap fun x => x.1.relayInput x.2

/-- What the run decides to send to the client, in order. -/
def relayedIn (s : Sender) (es : List Event) : List Reply :=
  outputs (fun s e => (s.step ext e, s.relayed ext e)) s es

end Sender

/-- The bytes that come in on an uplink. -/
def uplinkBytes : Event → Option Bytes
  | .uplink _ bytes _ => some bytes
  | _ => none

/-! ### One datagram -/

/-- What a relay that remembers `dedup` makes of traffic of type `pt`. -/
def replyTo (hashOf : Bytes → Nat) (dedup : ClientDedup) (pt : Nat) (bytes : Bytes) (now : Nat) :
    ClientDedup × List Bytes :=
  match relayRule pt with
  | .consumed => (dedup, [])
  | .always => (dedup, [bytes])
  | .once kind =>
    let (dedup, forward) := dedup.shouldForward hashOf ⟨kind, bytes, now⟩
    (dedup, if forward then [bytes] else [])

/-- What the handlers keep for the relay. -/
structure RelayState where
  client : Option SocketAddr
  dedup : ClientDedup

namespace RelayState

def step (hashOf : Bytes → Nat) (r : RelayState) :
    RelayInput → RelayState × List Reply
  | .client src => ({ r with client := some src }, [])
  | .traffic pt bytes now =>
    match r.client with
    | some client =>
      let reply := replyTo hashOf r.dedup pt bytes now
      ({ r with dedup := reply.1 }, reply.2.map fun packet => (client, packet))
    | none => (r, [])

end RelayState

def Sender.relayState (s : Sender) : RelayState := ⟨s.lastClientAddr, s.dedup⟩

theorem processUplinkData_relay (hashOf : Bytes → Nat) (conn : SrtlaConnection)
    (reg : SrtlaRegistrationManager) (client : SocketAddr) (dedup : ClientDedup) (pt : Nat)
    (bytes : Bytes) (now : Nat) :
    let out := processUplinkData hashOf conn reg (some client) dedup pt bytes now
    (out.dedup, out.ackToClient.toList ++ out.incoming.forwardToClient) =
      replyTo hashOf dedup pt bytes now := by
  simp only [processUplinkData, replyTo, relayRule, Option.isSome_some, if_true]
  by_cases ack : pt = srtTypeAck
  · have asked : dedup.shouldForward hashOf ⟨.ack, bytes, now⟩ =
        dedup.shouldForwardAck hashOf bytes now := rfl
    simp only [ack, if_true]
    rw [asked]
    rcases dedup.shouldForwardAck hashOf bytes now with ⟨dedup', forward⟩
    cases forward <;> rfl
  by_cases nak : pt = srtTypeNak
  · have asked : dedup.shouldForward hashOf ⟨.nak, bytes, now⟩ =
        dedup.shouldForwardNak hashOf bytes now := rfl
    simp only [nak, show ¬ srtTypeNak = srtTypeAck by decide, if_false, if_true]
    rw [asked]
    rcases dedup.shouldForwardNak hashOf bytes now with ⟨dedup', forward⟩
    cases forward <;> rfl
  -- SRTLA ACKs and keepalives are consumed, the rest goes through
  by_cases feedback : pt = srtlaTypeAck
  · simp [feedback, srtlaTypeAck, srtTypeNak, srtTypeAck]
  by_cases handshake : pt = srtTypeHandshake
  · simp [handshake, srtlaTypeAck, srtTypeNak, srtTypeAck, srtTypeHandshake, srtlaTypeKeepalive]
  by_cases keepalive : pt = srtlaTypeKeepalive
  · simp [keepalive, srtlaTypeAck, srtTypeNak, srtTypeAck, srtTypeHandshake, srtlaTypeKeepalive]
  · simp [ack, nak, feedback, handshake, keepalive]

/-- Without a client nothing is asked and nothing is kept. -/
theorem processUplinkData_without_client (hashOf : Bytes → Nat) (conn : SrtlaConnection)
    (reg : SrtlaRegistrationManager) (dedup : ClientDedup) (pt : Nat) (bytes : Bytes) (now : Nat) :
    (processUplinkData hashOf conn reg none dedup pt bytes now).dedup = dedup ∧
      (processUplinkData hashOf conn reg none dedup pt bytes now).ackToClient = none := by
  simp only [processUplinkData, Option.isSome_none, Bool.false_eq_true, if_false]
  repeat' split
  all_goals exact ⟨rfl, rfl⟩

namespace Sender

variable {ext : Externals} {s : Sender}

theorem processUplinkPacket_of_type (hashOf : Bytes → Nat) (conn : SrtlaConnection) {idx : Nat}
    {bytes : Bytes} {now pt : Nat} (type : getPacketType bytes = some pt)
    (silent : (s.reg.processRegistrationPacket idx bytes now).2 = none) :
    processUplinkPacket hashOf conn idx s.reg s.lastClientAddr s.dedup bytes now =
      processUplinkData hashOf conn (s.reg.processRegistrationPacket idx bytes now).1
        s.lastClientAddr s.dedup pt bytes now := by
  rcases outcome : s.reg.processRegistrationPacket idx bytes now with ⟨reg, event⟩
  rw [outcome] at silent
  obtain rfl : event = none := silent
  simp only [processUplinkPacket, type, outcome]

/-- What cannot be read, and what the manager takes, stays with the sender. -/
theorem processUplinkPacket_of_other (hashOf : Bytes → Nat) (conn : SrtlaConnection) {idx : Nat}
    {bytes : Bytes} {now : Nat}
    (other : ((getPacketType bytes).filter fun _ =>
      (s.reg.processRegistrationPacket idx bytes now).2.isNone) = none) :
    let out := processUplinkPacket hashOf conn idx s.reg s.lastClientAddr s.dedup bytes now
    out.dedup = s.dedup ∧ out.ackToClient = none ∧ out.incoming.forwardToClient = [] := by
  simp only [processUplinkPacket]
  cases type : getPacketType bytes with
  | none => exact ⟨rfl, rfl, rfl⟩
  | some pt =>
    rcases outcome : s.reg.processRegistrationPacket idx bytes now with ⟨reg, event⟩
    cases event with
    | none => simp [type, outcome] at other
    | some event => exact ⟨rfl, rfl, rfl⟩

/-- The replies are those of the datagram itself: what it does to the links has no say. -/
theorem relayUplinkPacket_eq (hashOf : Bytes → Nat) {connId idx : Nat} {bytes : Bytes}
    {conn : SrtlaConnection} (env : UplinkEnv) (filled : bytes.isEmpty = false)
    (found : s.conns.findIdx? (·.connId == connId) = some idx) (at_idx : s.conns[idx]? = some conn) :
    let out := processUplinkPacket hashOf conn idx s.reg s.lastClientAddr s.dedup bytes env.now
    (s.handleUplinkPacket hashOf connId bytes env).dedup = out.dedup ∧
      (s.relayUplinkPacket hashOf connId bytes env).all =
        out.ackToClient.toList ++
          if s.lastClientAddr.isSome then out.incoming.forwardToClient else [] := by
  have inside := (List.getElem?_eq_some_iff.mp at_idx).1
  simp only [handleUplinkPacket, relayUplinkPacket, filled, found, at_idx, Bool.false_eq_true,
    if_false, receiveUplink, processConnectionEvents, List.length_set, ge_iff_le,
    Nat.not_le.mpr inside]
  exact ⟨trivial, rfl⟩

theorem relay_uplink (connId : Nat) (bytes : Bytes) (env : UplinkEnv) :
    ((⟨s.lastClientAddr, (s.handleUplinkPacket ext.hashOf connId bytes env).dedup⟩ : RelayState),
        s.relayed ext (.uplink connId bytes env)) =
      (((s.relayInput (.uplink connId bytes env)).map (s.relayState.step ext.hashOf)).getD
        (s.relayState, [])) := by
  by_cases empty : bytes.isEmpty = true
  · -- an empty datagram is dropped, and has no type
    have untyped : getPacketType bytes = none := by
      rw [List.isEmpty_iff.mp empty]
      rfl
    have silent : s.trafficType connId bytes env.now = none := by
      simp [trafficType, untyped]
    cases client : s.lastClientAddr <;>
      simp [relayInput, relayState, relayed, addressed, Sender.replies, Replies.all, relayUplinkPacket, handleUplinkPacket, empty, silent, client]
  have filled : bytes.isEmpty = false := by simpa using empty
  cases found : s.conns.findIdx? (·.connId == connId) with
  | none =>
    -- the uplink has left the bond
    have silent : s.trafficType connId bytes env.now = none := by simp [trafficType, found]
    cases client : s.lastClientAddr <;>
      simp [relayInput, relayState, relayed, addressed, Sender.replies, Replies.all, relayUplinkPacket, handleUplinkPacket, filled, found,
        silent, client]
  | some idx =>
    have inside : idx < s.conns.length := (List.findIdx?_eq_some_iff_getElem.mp found).1
    obtain ⟨kept, replies⟩ := relayUplinkPacket_eq ext.hashOf env filled found
      (List.getElem?_eq_getElem inside)
    rw [relayed, addressed, Sender.replies, kept, replies]
    cases silent : s.trafficType connId bytes env.now with
    | none =>
      have other : ((getPacketType bytes).filter fun _ =>
          (s.reg.processRegistrationPacket idx bytes env.now).2.isNone) = none := by
        simpa only [trafficType, found, Option.bind_some] using silent
      obtain ⟨kept, quiet, nothing⟩ := processUplinkPacket_of_other ext.hashOf s.conns[idx] other
      rw [kept, quiet, nothing]
      cases client : s.lastClientAddr <;> simp [relayInput, relayState, client, silent]
    | some pt =>
      have traffic := silent
      simp only [trafficType, found, Option.bind_some, Option.filter_eq_some_iff,
        Option.isNone_iff_eq_none] at traffic
      rw [processUplinkPacket_of_type ext.hashOf s.conns[idx] traffic.1 traffic.2]
      cases client : s.lastClientAddr with
      | none =>
        obtain ⟨kept, quiet⟩ := processUplinkData_without_client ext.hashOf s.conns[idx]
          (s.reg.processRegistrationPacket idx bytes env.now).1 s.dedup pt bytes env.now
        simp [relayInput, relayState, RelayState.step, silent, client, kept]
      | some client' =>
        have reply := processUplinkData_relay ext.hashOf s.conns[idx]
          (s.reg.processRegistrationPacket idx bytes env.now).1 client' s.dedup pt bytes env.now
        simp only [relayInput, relayState, RelayState.step, client, silent, Option.isSome_some, if_true,
          ← reply, Option.map_some, Option.getD_some, List.filterMap_eq_map']

/-! ### Events -/

theorem lastClientAddr_handleUplinkPacket (hashOf : Bytes → Nat) (connId : Nat) (bytes : Bytes)
    (env : UplinkEnv) :
    (s.handleUplinkPacket hashOf connId bytes env).lastClientAddr = s.lastClientAddr :=
  congrArg (fun t => t.lastClientAddr) (s.handleUplinkPacket_frame hashOf connId bytes env)

/-- Housekeeping has nothing to do with the client. -/
theorem client_handleHousekeeping (env : HousekeepingEnv) (s : Sender) :
    (s.handleHousekeeping env).1.lastClientAddr = s.lastClientAddr ∧
      (s.handleHousekeeping env).1.dedup = s.dedup := by
  have driven := sameSetting_driven env s
  rw [← driven.lastClientAddr, ← driven.dedup]
  cases s.passEnd env with
  | alive _ _ after =>
    rw [after]
    exact ⟨rfl, rfl⟩
  | allFailed _ _ rehome after =>
    rw [after]
    exact ⟨rfl, rfl⟩
  | moved _ _ _ _ _ newRemote _ _ _ _ rehome after =>
    rw [after]
    exact ⟨rfl, rfl⟩

/-- The handlers follow the relay through every event. -/
theorem relay_step (ext : Externals) (s : Sender) (e : Event) :
    ((s.step ext e).relayState, s.relayed ext e) =
      (((s.relayInput e).map (s.relayState.step ext.hashOf)).getD (s.relayState, [])) := by
  cases e with
  | data pkt src sends config criticalWindow now =>
    simp only [step, relayInput, relayState, relayed, DataPath.handleSrtPacket]
    split
    · rfl
    · split
      · rfl
      · rfl
  | uplink connId bytes env =>
    rw [← relay_uplink, step_uplink, relayState, lastClientAddr_handleUplinkPacket]
  | housekeeping env =>
    obtain ⟨client, dedup⟩ := client_handleHousekeeping env s
    rw [step_housekeeping, relayState, client, dedup]
    rfl
  | flush sends now => rfl
  | classify verdict => rfl
  | reload env => rfl

end Sender

/-! ### Rings against the log -/

theorem RelayView.recent_iff (v : RelayView) (c : RelayCall) :
    v.recent c = true ↔
      ∃ earlier d later, v.handedOf c.kind = earlier ++ d :: later ∧ d.packet = c.packet ∧
        c.nowMs - d.nowMs < c.kind.windowMs ∧ later.length < c.kind.ringSize := by
  simp only [recent, List.any_eq_true, Bool.and_eq_true, decide_eq_true_eq, List.rtake]
  constructor
  · rintro ⟨d, member, same, soon⟩
    obtain ⟨before, later, cut⟩ := List.append_of_mem member
    refine ⟨(v.handedOf c.kind).take ((v.handedOf c.kind).length - c.kind.ringSize) ++ before, d,
      later, ?_, same, soon, ?_⟩
    · rw [List.append_assoc, ← cut, List.take_append_drop]
    · have lengths := congrArg List.length cut
      simp only [List.length_drop, List.length_append, List.length_cons] at lengths
      omega
  · rintro ⟨earlier, d, later, cut, same, soon, few⟩
    refine ⟨d, ?_, same, soon⟩
    rw [cut, List.drop_append_of_le_length]
    · exact List.mem_append_right _ List.mem_cons_self
    · simp only [List.length_append, List.length_cons]
      omega

/-- The rings are those of some calls about `packets`, and the log is what these calls let
through. -/
structure Mirrors (hashOf : Bytes → Nat) (packets : List Bytes) (r : RelayState) (v : RelayView) :
    Prop where
  client : v.client = r.client
  calls : ∃ calls : List RelayCall, (∀ c ∈ calls, c.packet ∈ packets) ∧
    r.dedup = run (ClientDedup.step hashOf) .new calls ∧
    ∀ kind, v.handedOf kind = ClientDedup.forwarded hashOf kind calls

/-- The bytes of traffic are among `packets`. -/
def RelayInput.Within (packets : List Bytes) : RelayInput → Prop
  | .client _ => True
  | .traffic _ bytes _ => bytes ∈ packets

/-- The rings hold a reply back exactly when it is a recent one in the log. -/
theorem recent_iff_answer {hashOf : Bytes → Nat} {calls : List RelayCall} {v : RelayView}
    {c : RelayCall} (distinguishes : ClientDedup.Distinguishes hashOf (calls ++ [c]))
    (log : v.handedOf c.kind = ClientDedup.forwarded hashOf c.kind calls) :
    ClientDedup.answer hashOf calls c = !v.recent c := by
  have held := ClientDedup.answer_false_iff distinguishes
  rw [← log, ← v.recent_iff c] at held
  cases recent : v.recent c with
  | true => exact held.mpr recent
  | false =>
    rw [recent] at held
    simpa using held

theorem RelayState.step_once {hashOf : Bytes → Nat} {r : RelayState} {client : SocketAddr}
    {pt : Nat} {kind : ReplyKind} (known : r.client = some client) (rule : relayRule pt = .once kind)
    (bytes : Bytes) (now : Nat) :
    r.step hashOf (.traffic pt bytes now) =
      ({ r with dedup := (r.dedup.shouldForward hashOf ⟨kind, bytes, now⟩).1 },
        if (r.dedup.shouldForward hashOf ⟨kind, bytes, now⟩).2 then [(client, bytes)] else []) := by
  simp only [RelayState.step, known, replyTo, rule]
  split
  · rfl
  · rfl

theorem RelayView.step_once {v : RelayView} {client : SocketAddr} {pt : Nat} {kind : ReplyKind}
    (known : v.client = some client) (rule : relayRule pt = .once kind) (bytes : Bytes) (now : Nat) :
    v.step (.traffic pt bytes now) =
      if v.recent ⟨kind, bytes, now⟩ then (v, [])
      else ({ v with handed := v.handed ++ [⟨kind, bytes, now⟩] }, [(client, bytes)]) := by
  simp only [RelayView.step, known, rule]

/-- One input leaves rings and log alike, and is answered alike. -/
theorem Mirrors.step {hashOf : Bytes → Nat} {packets : List Bytes}
    (distinguishes : ∀ a ∈ packets, ∀ b ∈ packets, hashOf a = hashOf b → a = b) {r : RelayState}
    {v : RelayView} (input : RelayInput) (within : input.Within packets)
    (mirrors : Mirrors hashOf packets r v) :
    (r.step hashOf input).2 = (v.step input).2 ∧
      Mirrors hashOf packets (r.step hashOf input).1 (v.step input).1 := by
  obtain ⟨client, calls, inside, rings, log⟩ := mirrors
  cases input with
  | client src => exact ⟨rfl, rfl, calls, inside, rings, log⟩
  | traffic pt bytes now =>
    cases known : r.client with
    | none =>
      simp only [RelayState.step, RelayView.step, client, known]
      exact ⟨trivial, client, calls, inside, rings, log⟩
    | some addr =>
      cases rule : relayRule pt with
      | consumed =>
        simp only [RelayState.step, RelayView.step, client, known, replyTo, rule]
        exact ⟨rfl, client.trans known, calls, inside, rings, log⟩
      | always =>
        simp only [RelayState.step, RelayView.step, client, known, replyTo, rule]
        exact ⟨rfl, client.trans known, calls, inside, rings, log⟩
      | once kind =>
        rw [RelayState.step_once known rule, RelayView.step_once (client.trans known) rule]
        set c : RelayCall := ⟨kind, bytes, now⟩
        have inside' : ∀ d ∈ calls ++ [c], d.packet ∈ packets :=
          List.forall_mem_append.mpr ⟨inside, List.forall_mem_singleton.mpr within⟩
        -- the hash tells the packets of the run apart, so the ring answers as the log does
        have answered : (r.dedup.shouldForward hashOf c).2 = !v.recent c := by
          rw [rings]
          exact recent_iff_answer
            (fun a memberA b memberB => distinguishes _ (inside' a memberA) _ (inside' b memberB))
            (log c.kind)
        have rings' : (r.dedup.shouldForward hashOf c).1 =
            run (ClientDedup.step hashOf) .new (calls ++ [c]) := by
          rw [rings, run_append]
          rfl
        have log' (kind' : ReplyKind) : ClientDedup.forwarded hashOf kind' (calls ++ [c]) =
            v.handedOf kind' ++ if c.kind = kind' ∧ (!v.recent c) = true then [c] else [] := by
          rw [ClientDedup.forwarded_concat, log, ClientDedup.answer, ← rings, answered]
        cases recent : v.recent c with
        | true =>
          refine ⟨by simp [answered, recent], client, calls ++ [c], inside', rings', fun kind' => ?_⟩
          rw [log']
          simp [recent]
        | false =>
          refine ⟨by simp [answered, recent], client, calls ++ [c], inside', rings', fun kind' => ?_⟩
          rw [log']
          simp [recent, RelayView.handedOf, List.filter_append, List.filter_cons]

/-! ### Runs -/

namespace Sender

variable {ext : Externals} {s : Sender}

theorem relayInputs_within (ext : Externals) (s : Sender) (es : List Event) :
    ∀ input ∈ s.relayInputs ext es, input.Within (es.filterMap uplinkBytes) := by
  intro input member
  obtain ⟨⟨t, e⟩, past, read⟩ := List.mem_filterMap.mp member
  cases input with
  | client src => trivial
  | traffic pt bytes now =>
    refine List.mem_filterMap.mpr ⟨e, mem_of_mem_history past, ?_⟩
    cases e with
    | uplink connId bytes' env =>
      simp only [relayInput, Option.map_eq_some_iff, RelayInput.traffic.injEq] at read
      obtain ⟨pt', -, -, rfl, -⟩ := read
      rfl
    | data pkt src sends config criticalWindow now =>
      simp only [relayInput] at read
      split at read
      · cases read
      · cases read
    | _ => cases read

/-- Nothing is sent to the client but the datagram that came in. -/
theorem relayed_sublist (ext : Externals) (s : Sender) (e : Event) :
    ((s.relayed ext e).map (·.2)).Sublist (uplinkBytes e).toList := by
  have answer : s.relayed ext e =
      (((s.relayInput e).map (s.relayState.step ext.hashOf)).getD (s.relayState, [])).2 :=
    congrArg Prod.snd (s.relay_step ext e)
  cases e with
  | uplink connId bytes env =>
    rw [answer, relayInput, uplinkBytes]
    cases s.trafficType connId bytes env.now with
    | none => exact List.nil_sublist _
    | some pt =>
      simp only [Option.map_some, Option.getD_some, RelayState.step]
      cases s.relayState.client with
      | none => exact List.nil_sublist _
      | some client =>
        -- one datagram in, at most the same datagram out
        have replies : (replyTo ext.hashOf s.relayState.dedup pt bytes env.now).2.Sublist [bytes] := by
          simp only [replyTo]
          cases relayRule pt with
          | consumed => exact List.nil_sublist _
          | always => exact List.Sublist.refl _
          | once kind =>
            simp only
            split
            · exact List.Sublist.refl _
            · exact List.nil_sublist _
        simpa using replies
  | _ => exact List.nil_sublist _

theorem relayedIn_sublist (s : Sender) (es : List Event) :
    ((s.relayedIn ext es).map (·.2)).Sublist (es.filterMap uplinkBytes) := by
  induction es generalizing s with
  | nil => exact List.Sublist.refl _
  | cons e es ih =>
    have cut : (e :: es).filterMap uplinkBytes =
        (uplinkBytes e).toList ++ es.filterMap uplinkBytes := by
      cases bytes : uplinkBytes e <;> simp [bytes]
    rw [relayedIn, outputs, List.map_append, cut]
    exact (s.relayed_sublist ext e).append (ih (s.step ext e))

/-- Where the client was heard. -/
def clientHeard : Event → Option SocketAddr
  | .data pkt src _ _ _ _ => if pkt.isEmpty then none else some src
  | _ => none

theorem lastClientAddr_step (ext : Externals) (s : Sender) (e : Event) :
    (s.step ext e).lastClientAddr = ((clientHeard e).map some).getD s.lastClientAddr := by
  cases e with
  | data pkt src sends config criticalWindow now =>
    simp only [step, clientHeard, DataPath.handleSrtPacket]
    split
    · rfl
    · split
      · rfl
      · rfl
  | uplink connId bytes env => exact lastClientAddr_handleUplinkPacket ext.hashOf connId bytes env
  | housekeeping env => exact (client_handleHousekeeping env s).1
  | flush sends now => rfl
  | classify verdict => rfl
  | reload env => rfl

theorem lastClientAddr_run (s : Sender) (es : List Event) :
    (run (step ext) s es).lastClientAddr = (es.filterMap clientHeard).getLast?.or s.lastClientAddr := by
  have last := foldl_last_write (fun t : Sender => t.lastClientAddr)
    (fun e => (clientHeard e).map some) (step ext) (lastClientAddr_step ext) s es
  rw [run, last, ← List.map_filterMap, List.getLast?_map]
  cases (es.filterMap clientHeard).getLast? <;> rfl

theorem relayed_to (s : Sender) {e : Event} {reply : Reply}
    (member : reply ∈ s.relayed ext e) : s.lastClientAddr = some reply.1 := by
  cases e with
  | uplink connId bytes env =>
    obtain ⟨packet, -, addressed⟩ := List.mem_filterMap.mp member
    obtain ⟨client, known, rfl⟩ := Option.map_eq_some_iff.mp addressed
    exact known
  | _ => cases member

theorem relayedIn_eq_view (ext : Externals) (s : Sender) (fresh : s.dedup = .new)
    (es : List Event)
    (distinguishes : ∀ a ∈ es.filterMap uplinkBytes, ∀ b ∈ es.filterMap uplinkBytes,
      ext.hashOf a = ext.hashOf b → a = b) :
    s.relayedIn ext es =
      outputs RelayView.step ⟨s.lastClientAddr, []⟩ (s.relayInputs ext es) := by
  have followed : s.relayedIn ext es =
      outputs (RelayState.step ext.hashOf) s.relayState (s.relayInputs ext es) :=
    outputs_follows relayState (fun s e => s.relayInput e) (relay_step ext) s es
  have mirrors : Mirrors ext.hashOf (es.filterMap uplinkBytes) s.relayState
      ⟨s.lastClientAddr, []⟩ :=
    ⟨rfl, [], List.forall_mem_nil _, fresh, fun kind => rfl⟩
  rw [followed]
  exact outputs_congr (Mirrors ext.hashOf (es.filterMap uplinkBytes))
    (fun r v input within held => held.step distinguishes input within) mirrors
    (relayInputs_within ext s es)

theorem relayed_address (ext : Externals) (s : Sender) {before : List Event} {e : Event}
    {reply : Reply} (member : reply ∈ (run (step ext) s before).relayed ext e) :
    (before.filterMap clientHeard).getLast?.or s.lastClientAddr = some reply.1 := by
  rw [← lastClientAddr_run]
  exact relayed_to _ member

/-! ### The socket of the client -/

theorem addressed_append (s : Sender) (xs ys : List Bytes) :
    s.addressed (xs ++ ys) = s.addressed xs ++ s.addressed ys := List.filterMap_append

theorem addressed_sublist (s : Sender) {xs ys : List Bytes} (part : xs.Sublist ys) :
    (s.addressed xs).Sublist (s.addressed ys) := part.filterMap _

theorem mem_addressed {s : Sender} {replies : List Bytes} {reply : Reply}
    (member : reply ∈ s.addressed replies) : reply.2 ∈ replies := by
  obtain ⟨packet, inside, addressed⟩ := List.mem_filterMap.mp member
  obtain ⟨client, -, rfl⟩ := Option.map_eq_some_iff.mp addressed
  exact inside

end Sender

/-- Only an ACK of SRT is offered to the socket before the rest. -/
theorem processUplinkPacket_ack (hashOf : Bytes → Nat) (conn : SrtlaConnection) (idx : Nat)
    (reg : SrtlaRegistrationManager) (client : Option SocketAddr) (dedup : ClientDedup)
    {bytes ack : Bytes} {now : Nat}
    (offered : (processUplinkPacket hashOf conn idx reg client dedup bytes now).ackToClient =
      some ack) :
    getPacketType ack = some srtTypeAck := by
  simp only [processUplinkPacket] at offered
  cases type : getPacketType bytes with
  | none =>
    rw [type] at offered
    cases offered
  | some pt =>
    simp only [type] at offered
    rcases outcome : reg.processRegistrationPacket idx bytes now with ⟨reg, event⟩
    rw [outcome] at offered
    cases event with
    | some event => cases offered
    | none =>
      simp only [processUplinkData] at offered
      by_cases isAck : pt = srtTypeAck
      · -- the bytes are those of the datagram
        simp only [isAck, if_true] at offered
        have same : bytes = ack := by
          split at offered
          · split at offered
            · exact Option.some.inj offered
            · cases offered
          · cases offered
        rw [← same, type, isAck]
      · simp only [isAck, if_false] at offered
        repeat' split at offered
        all_goals cases offered

theorem Sender.replies_ack {ext : Externals} {s : Sender} {e : Event} {ack : Bytes}
    (offered : (s.replies ext e).ack = some ack) : getPacketType ack = some srtTypeAck := by
  cases e with
  | uplink connId bytes env =>
    simp only [Sender.replies, Sender.relayUplinkPacket] at offered
    repeat' split at offered
    · cases offered
    · cases offered
    · cases offered
    · exact processUplinkPacket_ack _ _ _ _ _ _ offered
  | _ => cases offered

def isAck (reply : Reply) : Bool := getPacketType reply.2 == some srtTypeAck

/-- What one carrier sends of `sent`. -/
def sentBy (carrier : Carrier) (sent : List SentReply) : List Reply :=
  (sent.filter fun r => decide (r.carrier = carrier)).map (·.reply)

@[simp] theorem sentBy_nil (carrier : Carrier) : sentBy carrier [] = [] := rfl

@[simp] theorem sentBy_map (carrier carrier' : Carrier) (replies : List Reply) :
    sentBy carrier (replies.map (⟨carrier', ·⟩)) = if carrier' = carrier then replies else [] := by
  by_cases same : carrier' = carrier
  · simp [sentBy, same, List.filter_map, Function.comp_def]
  · simp [sentBy, same, List.filter_map, Function.comp_def]

@[simp] theorem sentBy_append (carrier : Carrier) (xs ys : List SentReply) :
    sentBy carrier (xs ++ ys) = sentBy carrier xs ++ sentBy carrier ys := by
  simp only [sentBy, List.filter_append, List.map_append]

theorem sentBy_flatMap {β : Type} (carrier : Carrier) (xs : List β) (f : β → List SentReply) :
    sentBy carrier (xs.flatMap f) = xs.flatMap fun x => sentBy carrier (f x) := by
  simp only [sentBy, List.filter_flatMap, List.map_flatMap]

/-- What is not sent by the task is sent by the loop. -/
theorem sentBy_perm (sent : List SentReply) :
    (sentBy .loop sent ++ sentBy .instantTask sent).Perm (sent.map (·.reply)) := by
  have other : (sent.filter fun r => decide (r.carrier = .instantTask)) =
      sent.filter fun r => !decide (r.carrier = .loop) :=
    List.filter_congr fun r _ => by cases r.carrier <;> simp
  rw [sentBy, sentBy, other, ← List.map_append]
  exact (List.filter_append_perm _ sent).map _

theorem sentBy_loop_of_no_task {sent : List SentReply} (none : sentBy .instantTask sent = []) :
    sentBy .loop sent = sent.map (·.reply) := by
  have all : (sent.filter fun r => decide (r.carrier = .loop)) = sent := by
    refine List.filter_eq_self.mpr fun r member => ?_
    cases carried : r.carrier with
    | loop => rfl
    | instantTask =>
      have byTask : r.reply ∈ sentBy .instantTask sent :=
        List.mem_map_of_mem (List.mem_filter.mpr ⟨member, by simp [carried]⟩)
      rw [none] at byTask
      cases byTask
  rw [sentBy, all]

/-- The event of the loop, if it is one. -/
def ReplyEvent.handled : ReplyEvent → Option Event
  | .handle e _ => some e
  | .instantForward _ => none

namespace ReplyPath

variable (ext : Externals)

/-- The path after a run. -/
def after (p : ReplyPath) (es : List ReplyEvent) : ReplyPath :=
  run (fun p e => (p.step ext e).1) p es

/-- What leaves for the client over a run, in order. -/
def sentIn (p : ReplyPath) (es : List ReplyEvent) : List SentReply := outputs (step ext) p es

/-- What an event decides to send. -/
def decided (p : ReplyPath) : ReplyEvent → List Reply
  | .handle e _ => p.sender.relayed ext e
  | .instantForward _ => []

/-- What an event hands to the task. -/
def handed (p : ReplyPath) : ReplyEvent → List Reply
  | .handle e socket => (offerAck p.sender (p.sender.replies ext e).ack socket.trySendTo).2
  | .instantForward _ => []

/-- A reply is given up, since the socket fails on it. -/
def loses (p : ReplyPath) : ReplyEvent → Bool
  | .handle e socket =>
    (p.sender.replies ext e).ack.isSome && decide (socket.trySendTo = .failed) ||
      (p.sender.replies ext e).deferred.any fun reply => !socket.sendTo reply
  | .instantForward sent => !sent && !p.instant.isEmpty

/-- One step as a turn of the task's lane. -/
def turn (p : ReplyPath) (e : ReplyEvent) : SideLane.Turn Reply where
  decided := p.decided ext e
  direct := sentBy .loop (p.step ext e).2
  handed := p.handed ext e
  served := sentBy .instantTask (p.step ext e).2
  lossy := p.loses ext e

/-- How the replies `decided` reach the client over a run. -/
structure Delivers (p : ReplyPath) (es : List ReplyEvent) (decided : List Reply) : Prop where
  /-- The loop sends in the order of its decisions. -/
  loop : (sentBy .loop (p.sentIn ext es)).Sublist decided
  /-- Only ACKs go through the task, in their order. -/
  task : (sentBy .instantTask (p.sentIn ext es) ++ (p.after ext es).instant).Sublist
    (decided.filter isAck)
  /-- Nothing is sent twice, or sent and still waiting. -/
  once : ((p.sentIn ext es).map (·.reply) ++ (p.after ext es).instant).Subperm decided
  /-- Unless the socket fails on a reply, what is not sent waits for the task. -/
  whole : (∀ x ∈ history (fun p e => (p.step ext e).1) p es, x.1.loses ext x.2 = false) →
    ((p.sentIn ext es).map (·.reply) ++ (p.after ext es).instant).Perm decided
  /-- If it is never busy either, all is sent as it was decided. -/
  prompt : (∀ x ∈ history (fun p e => (p.step ext e).1) p es,
      x.1.loses ext x.2 = false ∧ x.1.handed ext x.2 = []) →
    (p.sentIn ext es).map (·.reply) = decided

variable {ext} {p : ReplyPath}

theorem handed_ack (e : ReplyEvent) : ∀ reply ∈ p.handed ext e, isAck reply = true := by
  intro reply member
  cases e with
  | handle e socket =>
    simp only [handed, offerAck] at member
    cases answer : socket.trySendTo with
    | wouldBlock =>
      rw [answer] at member
      have offered := Option.mem_toList.mp (Sender.mem_addressed member)
      simp [isAck, Sender.replies_ack offered]
    | sent => simp [answer] at member
    | failed => simp [answer] at member
  | instantForward sent => cases member

/-- What the socket does with the replies of one event. -/
theorem moves_handle (ext : Externals) (p : ReplyPath) (e : Event) (socket : LocalSends) :
    SideLane.Moves p.instant (p.turn ext (.handle e socket))
      (p.step ext (.handle e socket)).1.instant := by
  set replies := p.sender.replies ext e with decides
  have decided : p.sender.relayed ext e =
      p.sender.addressed replies.ack.toList ++ p.sender.addressed replies.deferred :=
    p.sender.addressed_append _ _
  have deferred := p.sender.addressed_sublist (List.filter_sublist (p := socket.sendTo)
    (l := replies.deferred))
  -- the ACK is sent, handed over or lost; of the rest a part is sent
  have split (now aside : List Reply)
      (offer : offerAck p.sender replies.ack socket.trySendTo = (now, aside))
      (parts : (now ++ aside).Sublist (p.sender.addressed replies.ack.toList))
      (kept : p.loses ext (.handle e socket) = false →
        now ++ aside = p.sender.addressed replies.ack.toList) :
      SideLane.Moves p.instant (p.turn ext (.handle e socket))
        (p.step ext (.handle e socket)).1.instant := by
    have direct : (p.turn ext (.handle e socket)).direct =
        now ++ p.sender.addressed (replies.deferred.filter socket.sendTo) := by
      simp [turn, step, ← decides, offer]
    have aside' : (p.turn ext (.handle e socket)).handed = aside := by
      simp [turn, handed, ← decides, offer]
    have served : (p.turn ext (.handle e socket)).served = [] := by
      simp [turn, step, ← decides, offer]
    have rotate : ((now ++ p.sender.addressed (replies.deferred.filter socket.sendTo)) ++ aside).Perm
        ((now ++ aside) ++ p.sender.addressed (replies.deferred.filter socket.sendTo)) := by
      rw [List.append_assoc, List.append_assoc]
      exact List.perm_append_comm.append_left now
    refine ⟨?_, ?_, ?_, ?_, ?_⟩
    · rw [direct, turn, ReplyPath.decided, decided]
      exact ((List.sublist_append_left _ _).trans parts).append deferred
    · rw [aside', turn, ReplyPath.decided, decided]
      exact ((List.sublist_append_right _ _).trans parts).trans (List.sublist_append_left _ _)
    · rw [direct, aside', turn, ReplyPath.decided, decided]
      exact rotate.subperm.trans (parts.append deferred).subperm
    · intro lossless
      have none : replies.deferred.filter socket.sendTo = replies.deferred := by
        refine List.filter_eq_self.mpr fun reply member => ?_
        have all := lossless
        simp only [turn, loses, ← decides, Bool.or_eq_false_iff, List.any_eq_false] at all
        simpa using all.2 reply member
      rw [direct, aside', turn, ReplyPath.decided, decided]
      rw [kept lossless, none] at rotate
      rwa [none]
    · refine .of_eq ?_
      simp [SideLane.Turn.onLane, aside', served, step, ← decides, offer]
  cases answer : socket.trySendTo with
  | sent => exact split _ [] (by rw [answer]; rfl) (by simp) (fun _ => by simp)
  | wouldBlock => exact split [] _ (by rw [answer]; rfl) (by simp) (fun _ => by simp)
  | failed =>
    refine split [] [] (by rw [answer]; rfl) (by simp) fun lossless => ?_
    have none : replies.ack = none := by
      simpa [loses, ← decides, answer] using (Bool.or_eq_false_iff.mp lossless).1
    simp [none, Sender.addressed]

/-- The task takes the first reply that waits. -/
theorem moves_instantForward (ext : Externals) (p : ReplyPath) (sent : Bool) :
    SideLane.Moves p.instant (p.turn ext (.instantForward sent))
      (p.step ext (.instantForward sent)).1.instant := by
  have direct : (p.turn ext (.instantForward sent)).direct = [] := by
    simp only [turn, step]
    split
    · rfl
    · split <;> rfl
  refine ⟨by rw [direct]; exact List.nil_sublist _, List.nil_sublist _, ?_, fun _ => ?_, ?_⟩
  · rw [direct]
    exact List.Subperm.refl _
  · rw [direct]
    exact List.Perm.refl _
  cases waiting : p.instant with
  | nil => exact .idle rfl (by simp [SideLane.Turn.onLane, turn, step, waiting]) (by simp [step, waiting])
  | cons reply rest =>
    cases sent with
    | true => exact .of_eq (by simp [SideLane.Turn.onLane, turn, step, handed, waiting, sentBy])
    | false =>
      refine ⟨?_, fun kept => ?_⟩
      · simp [SideLane.Turn.onLane, turn, step, handed, waiting]
      · simp [SideLane.Turn.onLane, turn, loses, waiting] at kept

theorem moves (ext : Externals) (p : ReplyPath) (e : ReplyEvent) :
    SideLane.Moves p.instant (p.turn ext e) (p.step ext e).1.instant := by
  cases e with
  | handle e socket => exact moves_handle ext p e socket
  | instantForward sent => exact moves_instantForward ext p sent

theorem gathered_decided (p : ReplyPath) (es : List ReplyEvent) :
    SideLane.gathered (fun p e => (p.step ext e).1) (turn ext) SideLane.Turn.decided p es =
      p.sender.relayedIn ext (es.filterMap ReplyEvent.handled) := by
  induction es generalizing p with
  | nil => rfl
  | cons e es ih =>
    have first : SideLane.gathered (fun p e => (p.step ext e).1) (turn ext) SideLane.Turn.decided p
        (e :: es) = p.decided ext e ++ SideLane.gathered (fun p e => (p.step ext e).1) (turn ext)
          SideLane.Turn.decided (p.step ext e).1 es := rfl
    rw [first, ih]
    cases e with
    | handle e socket => rfl
    | instantForward sent =>
      have same : (p.step ext (.instantForward sent)).1.sender = p.sender := by
        simp only [step]
        split <;> rfl
      rw [same]
      rfl

theorem gathered_sentBy (carrier : Carrier) (p : ReplyPath) (es : List ReplyEvent) :
    (history (fun p e => (p.step ext e).1) p es).flatMap
        (fun x => sentBy carrier (x.1.step ext x.2).2) =
      sentBy carrier (p.sentIn ext es) := by
  rw [sentIn, outputs_eq_flatMap, sentBy_flatMap]

theorem delivers (ext : Externals) (p : ReplyPath) (idle : p.instant = []) (es : List ReplyEvent) :
    p.Delivers ext es (p.sender.relayedIn ext (es.filterMap ReplyEvent.handled)) := by
  have each : EachStep (fun p e => (p.step ext e).1)
      (fun p e => SideLane.Moves p.instant (p.turn ext e) (p.step ext e).1.instant) p es :=
    eachStep_of_history fun x _ => moves ext x.1 x.2
  have direct : SideLane.gathered (fun p e => (p.step ext e).1) (turn ext) SideLane.Turn.direct p es =
      sentBy .loop (p.sentIn ext es) := gathered_sentBy .loop p es
  have served : SideLane.gathered (fun p e => (p.step ext e).1) (turn ext) SideLane.Turn.served p es =
      sentBy .instantTask (p.sentIn ext es) := gathered_sentBy .instantTask p es
  have lane := SideLane.served_sublist each
  rw [idle, List.nil_append, served] at lane
  -- the two ways together are all that was sent
  have merged : (sentBy .loop (p.sentIn ext es) ++
      (sentBy .instantTask (p.sentIn ext es) ++ (p.after ext es).instant)).Perm
      ((p.sentIn ext es).map (·.reply) ++ (p.after ext es).instant) := by
    rw [← List.append_assoc]
    exact (sentBy_perm _).append_right _
  rw [← gathered_decided]
  refine ⟨?_, ?_, ?_, fun lossless => ?_, fun prompt => ?_⟩
  · rw [← direct]
    exact SideLane.gathered_sublist (eachStep_of_history fun x _ => (moves ext x.1 x.2).direct)
  -- only ACKs are handed to the task
  · have acks : (SideLane.gathered (fun p e => (p.step ext e).1) (turn ext) SideLane.Turn.handed p
        es).filter isAck =
        SideLane.gathered (fun p e => (p.step ext e).1) (turn ext) SideLane.Turn.handed p es := by
      refine List.filter_eq_self.mpr fun reply member => ?_
      obtain ⟨x, -, inside⟩ := List.mem_flatMap.mp member
      exact handed_ack x.2 reply inside
    refine lane.trans ?_
    rw [← acks]
    exact (SideLane.gathered_sublist
      (eachStep_of_history fun x _ => (moves ext x.1 x.2).handed)).filter isAck
  · have once := SideLane.sent_subperm idle each
    rw [direct, served] at once
    exact merged.symm.subperm.trans once
  · have whole := SideLane.sent_perm idle each lossless
    rw [direct, served] at whole
    exact merged.symm.trans whole
  · have nothing : SideLane.gathered (fun p e => (p.step ext e).1) (turn ext) SideLane.Turn.handed p
        es = [] := List.flatMap_eq_nil_iff.mpr fun x past => (prompt x past).2
    rw [nothing] at lane
    have quiet := (List.append_eq_nil_iff.mp (List.sublist_nil.mp lane)).1
    rw [← SideLane.direct_eq each prompt, direct, sentBy_loop_of_no_task quiet]

/-- To the client the bond is one receiver: over every run in which the hash tells the
datagrams apart, what the handlers decide to send is what `RelayView` hands over, the rings of
hashes in place of its log. The replies are datagrams of the uplinks, byte for byte and in
their order, and each goes to where the client was last heard. They are delivered in that order
but for ACKs that found the socket busy, and none twice. -/
theorem relay_is_one_receiver (ext : Externals) (p : ReplyPath) (fresh : p.sender.dedup = .new)
    (idle : p.instant = []) (es : List ReplyEvent)
    (distinguishes : ∀ a ∈ (es.filterMap ReplyEvent.handled).filterMap uplinkBytes,
      ∀ b ∈ (es.filterMap ReplyEvent.handled).filterMap uplinkBytes,
        ext.hashOf a = ext.hashOf b → a = b) :
    let handled := es.filterMap ReplyEvent.handled
    let decided := p.sender.relayedIn ext handled
    decided = outputs RelayView.step ⟨p.sender.lastClientAddr, []⟩
        (p.sender.relayInputs ext handled) ∧
      (decided.map (·.2)).Sublist (handled.filterMap uplinkBytes) ∧
      (∀ before e after, handled = before ++ e :: after →
        ∀ reply ∈ (run (Sender.step ext) p.sender before).relayed ext e,
          (before.filterMap Sender.clientHeard).getLast?.or p.sender.lastClientAddr = some reply.1) ∧
      p.Delivers ext es decided :=
  ⟨p.sender.relayedIn_eq_view ext fresh _ distinguishes, p.sender.relayedIn_sublist _,
    fun _ _ _ _ _ member => p.sender.relayed_address ext member, delivers ext p idle es⟩

end ReplyPath

namespace Sample

/-- Datagrams told apart by their lengths. -/
def lengths : Externals := { externals with hashOf := List.length }

/-- A NAK of SRT for packet 7. -/
def nak : Bytes := toBe16 srtTypeNak ++ List.replicate 14 0 ++ toBe32 7

/-- An ACK of SRT up to packet 7. -/
def peerAck : Bytes := toBe16 srtTypeAck ++ List.replicate 14 0 ++ toBe32 7 ++ List.replicate 4 0

def prompt : LocalSends := ⟨.sent, fun _ => true⟩

def busy : LocalSends := ⟨.wouldBlock, fun _ => true⟩

/-- The client speaks and an ACK comes in that finds the socket busy; then a NAK on both uplinks,
and once more after its window, with a handshake packet and an SRTLA ACK between them. The task
sends the ACK after the first NAK. -/
def replies : List ReplyEvent :=
  [.handle (.data (toBe32 7) client (sends 600) {} {} 600) prompt,
    .handle (receive 1 peerAck 900) busy, .handle (receive 1 nak 1000) prompt,
    .handle (receive 2 nak 1030) prompt, .instantForward true,
    .handle (receive 2 (toBe16 srtTypeHandshake) 1040) prompt,
    .handle (receive 1 (createAckPacket [7]) 1050) prompt, .handle (receive 1 nak 1100) prompt]

end Sample

/-- The copy is held back and the SRTLA ACK is consumed; the repeat goes through, and the NAK
overtakes the ACK. -/
theorem ReplyPath.relay_is_one_receiver_replies :
    let p : ReplyPath := ⟨Sample.sender [1, 2], []⟩
    let decided := p.sender.relayedIn Sample.lengths (Sample.replies.filterMap ReplyEvent.handled)
    (p.sentIn Sample.lengths Sample.replies).map (fun r => (r.carrier, r.reply)) =
        [(.loop, (Sample.client, Sample.nak)), (.instantTask, (Sample.client, Sample.peerAck)),
          (.loop, (Sample.client, toBe16 srtTypeHandshake)), (.loop, (Sample.client, Sample.nak))] ∧
      decided = [(Sample.client, Sample.peerAck), (Sample.client, Sample.nak),
        (Sample.client, toBe16 srtTypeHandshake), (Sample.client, Sample.nak)] ∧
      decided = outputs RelayView.step ⟨none, []⟩ (p.sender.relayInputs Sample.lengths
        (Sample.replies.filterMap ReplyEvent.handled)) ∧
      p.Delivers Sample.lengths Sample.replies decided := by
  have holds := relay_is_one_receiver Sample.lengths ⟨Sample.sender [1, 2], []⟩ rfl rfl
    Sample.replies (by decide +kernel)
  refine ⟨by decide +kernel, by decide +kernel, ?_, ?_⟩
  · exact holds.1
  · exact holds.2.2.2

end SrtlaSend
