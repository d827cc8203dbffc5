import SrtlaSend.Properties.SoundLinks
import SrtlaSend.Properties.Transmission

/-!
# Client datagrams find a link

Selection is correct on sound links, and the links of the bond are sound in every state. So a
datagram that comes in after the first registration is queued on a usable link as long as there
is one, whatever the gates, the latches and the verdicts of the two controllers say, and its
duplicates go to connected links only.
-/

namespace SrtlaSend

open Runs Pointwise SrtlaConnection

variable {ext : Externals} {s : Sender}

/-- With a usable link a pass has a choice. -/
theorem select_isSome {calculate : SrtlaConnection → Nat → ℚ} (positive : ∀ c t, 0 < calculate c t)
    {conns : List SrtlaConnection} (sound : ∀ c ∈ conns, c.LinkSound) {now : Nat}
    {config : ConfigSnapshot} (usable : ∃ c ∈ conns, c.UsableUnder config now)
    (lastIdx : Option Nat) :
    (selectConnectionIdx calculate conns lastIdx now config).2.isSome = true := by
  have links : ∀ c ∈ conns, c.Sound := fun c member => (sound c member).sound
  cases mode : config.mode with
  | classic =>
    obtain ⟨i, x, chosen, -⟩ := @classic_pass calculate conns now config lastIdx mode links usable
    rw [chosen]
    rfl
  | enhanced =>
    have cached : ∀ c ∈ conns, 0 < c.qualityCache.multiplier := fun c member => (sound c member).quality
    obtain ⟨i, chosen, -⟩ :=
      @enhanced_pass calculate conns now config lastIdx mode positive links cached usable
    rw [chosen]
    rfl

namespace DataPath

variable {calculate : SrtlaConnection → Nat → ℚ} {s : DataPath} {pkt : Bytes} {now : Nat}
  {config : ConfigSnapshot} {criticalWindow : CriticalWindow}

/-- The pass leaves the place of a link in its life alone. -/
theorem sameLife_routePacket :
    List.Forall₂ SameLife s.conns (s.routePacket calculate pkt now config criticalWindow).1 :=
  (selectConnectionIdx_frame calculate s.conns s.lastSelectedIdx now config).imp fun _ _ => sameLife_pass

/-- The link a datagram is routed to is usable and connected. -/
theorem usable_of_routePacket (sound : ∀ c ∈ s.conns, c.LinkSound) {i : Nat}
    (chosen : (s.routePacket calculate pkt now config criticalWindow).2 = some i) :
    ∃ c, s.conns[i]? = some c ∧ c.UsableUnder config now ∧ c.connected = true := by
  obtain ⟨c', at_i, eligible⟩ :=
    routePacket_admitted (fun c member => (sound c member).sound.noLimbo) chosen
  simp only [Priority.isEligible, Bool.and_eq_true, Bool.not_eq_true'] at eligible
  obtain ⟨⟨⟨⟨up, schedulable⟩, alive⟩, -⟩, -⟩ := eligible
  obtain ⟨c, found, same⟩ := getElem?_of_forall₂_right
    (selectConnectionIdx_frame calculate s.conns s.lastSelectedIdx now config) at_i
  refine ⟨c, found, usableUnder_iff.mpr ?_, (sameLife_pass same).connected.symm.trans up⟩
  rw [← same.isUsable now, isUsable, alive, schedulable]
  rfl

/-- Without a choice no link is usable. -/
theorem routePacket_eq_none (positive : ∀ c t, 0 < calculate c t)
    (sound : ∀ c ∈ s.conns, c.LinkSound)
    (nowhere : (s.routePacket calculate pkt now config criticalWindow).2 = none) :
    ∀ c ∈ s.conns, ¬ c.UsableUnder config now := by
  intro c member usable
  obtain ⟨i, chosen⟩ := Option.isSome_iff_exists.mp
    (select_isSome positive sound ⟨c, member, usable⟩ s.lastSelectedIdx)
  simp only [routePacket, overrideSelection, chosen] at nowhere
  split at nowhere
  · -- the override falls back to the choice
    simp at nowhere
  · cases nowhere

end DataPath

/-! ### One datagram -/

/-- A datagram is queued on a usable link, and its duplicates on other connected ones; or no
link is usable, and nothing is queued. -/
def Sender.Carries (ext : Externals) (s : Sender) : Event → Prop
  | .data pkt src sends config criticalWindow now =>
    let copies := (s.traffic ext (.data pkt src sends config criticalWindow now)).copies
    pkt ≠ [] → s.reg.hasConnected = true →
      (copies = [] ∧ ∀ c ∈ s.conns, ¬ c.UsableUnder config now) ∨
        ∃ c ∈ s.conns, c.UsableUnder config now ∧ c.connected = true ∧
          ∃ probes, copies = ⟨c.connId, pkt⟩ :: probes ∧
            ∀ probe ∈ probes, probe.bytes = setSrtDataRetransmit pkt ∧
              ∃ d ∈ s.conns, d.connId = probe.connId ∧ d.connId ≠ c.connId ∧ d.connected = true
  | _ => True

theorem carries_data (positive : ∀ c t, 0 < ext.calculate c t) (sound : s.BondSound) (pkt : Bytes)
    (src : SocketAddr) (sends : Sends) (config : ConfigSnapshot) (criticalWindow : CriticalWindow)
    (now : Nat) : s.Carries ext (.data pkt src sends config criticalWindow now) := by
  intro nonempty registered
  have filled : pkt.isEmpty = false := by simpa using nonempty
  have traffic : s.traffic ext (.data pkt src sends config criticalWindow now) =
      s.toDataPath.clientTraffic ext.calculate pkt s.connIo sends true config criticalWindow now := by
    rw [← registered]
    rfl
  rw [traffic]
  set routed := s.toDataPath.routePacket ext.calculate pkt now config criticalWindow with routed_eq
  cases chosen : routed.2 with
  | none =>
    refine Or.inl ⟨?_, DataPath.routePacket_eq_none positive sound.links chosen⟩
    simp only [DataPath.clientTraffic, filled, ← routed_eq, chosen, Bool.not_true, Bool.false_eq_true,
      if_false]
  | some i =>
    obtain ⟨c, at_i, usable, up⟩ := DataPath.usable_of_routePacket sound.links chosen
    -- routing refreshes the links before the copies are queued on them
    have life : List.Forall₂ SameLife s.conns routed.1 := DataPath.sameLife_routePacket
    have ids : routed.1.map (·.connId) = s.conns.map (·.connId) :=
      map_eq_of_forall₂ (fun _ _ same => same.connId) life
    obtain ⟨c', at_i', same⟩ := getElem?_of_forall₂ life at_i
    obtain ⟨probes, copies, -, marked⟩ := copies_deliverTraffic pkt s.connIo sends now
      (s := { s.toDataPath with conns := routed.1 }) (ids ▸ sound.distinct) at_i'
    refine Or.inr ⟨c, List.mem_of_getElem? at_i, usable, up, probes, ?_, fun probe member => ?_⟩
    · simp only [DataPath.clientTraffic, filled, ← routed_eq, chosen, Bool.not_true, Bool.false_eq_true,
        if_false]
      rw [← same.connId]
      exact copies
    · -- a link that is probed was up before routing too
      obtain ⟨bytes, elsewhere, d', member', held, on⟩ := marked probe member
      obtain ⟨j, at_j⟩ := List.mem_iff_getElem?.mp member'
      obtain ⟨d, found, alike⟩ := getElem?_of_forall₂_right life at_j
      rw [DataPath.isProbed, Bool.and_eq_true] at held
      refine ⟨bytes, d, List.mem_of_getElem? found, alike.connId.symm.trans on, ?_,
        alike.connected.symm.trans held.2⟩
      rw [← alike.connId, on, ← same.connId]
      exact elsewhere

/-! ### Runs -/

namespace Sender

variable {host : String} {port : Nat} {dial : Nat → IpAddr → Option Dialed} {ips : List IpAddr}
  {weights : List Nat} {groupId probeId : SrtlaId} {rehomeEnabled : Bool} {now : Nat}
  {es : List Event}

/-- From startup on every link of the bond is sound: at a place in its life, its books in order
and its window in range. No two have one id. -/
theorem links_stay_sound {exp : ℚ → ℚ} (bounded : ∀ x ≤ 0, exp x ≤ 1)
    (quality : ext.calculate = calculateQualityMultiplier exp)
    (started : startup ext host port dial ips weights groupId probeId rehomeEnabled now = some s)
    (distinct : (s.conns.map (·.connId)).Nodup) (timely : ∀ e ∈ es, e.Timely)
    (fresh : EachStep (step ext) (fun s e => s.drawsFreshIds e = true) s es) :
    (∀ c ∈ (run (step ext) s es).conns, c.LinkSound) ∧
      ((run (step ext) s es).conns.map (·.connId)).Nodup := by
  have positive : ∀ c t, 0 < ext.calculate c t := by
    rw [quality]
    exact calculateQualityMultiplier_pos bounded
  have sound := (bondSound_run positive (bondSound_startup started distinct) timely fresh).2
  exact ⟨sound.links, sound.distinct⟩

/-- Two uplinks, and the quality of the source with a constant exponential. -/
def ratedExternals : Externals :=
  { Sample.externals with calculate := calculateQualityMultiplier fun _ => 1 }

def dialSample (i : Nat) (_ : IpAddr) : Option Dialed := some ⟨i + 1, Sample.receiver, 500⟩

/-- The sender after startup with two uplinks. -/
def startedSample : Sender :=
  let (conns, connIo) :=
    createConnectionsFromIps ratedExternals.showIp "receiver" 5000 dialSample [.v4 1, .v4 2] [1, 1] ∅
  .start conns connIo (Sample.groupId 1) (Sample.groupId 2) false 500

/-- Both uplinks register, and the client sends two packets. -/
def carriedSample : List Event :=
  Sample.handshake ++
    [.data [0, 0, 0, 7] Sample.client (Sample.sends 2200) {} {} 2200,
      .data [0, 0, 0, 8] Sample.client (Sample.sends 2210) {} {} 2210]

theorem startedSample_eq :
    startup ratedExternals "receiver" 5000 dialSample [.v4 1, .v4 2] [1, 1] (Sample.groupId 1)
      (Sample.groupId 2) false 500 = some startedSample := rfl

theorem timely_carriedSample : ∀ e ∈ carriedSample, e.Timely := by
  simp [carriedSample, Sample.handshake, Sample.grouped, Sample.receive, Event.Timely]

theorem links_stay_sound_sample :
    (run (step ratedExternals) startedSample carriedSample).conns.length = 2 ∧
      ∀ c ∈ (run (step ratedExternals) startedSample carriedSample).conns, c.LinkSound :=
  ⟨by decide +kernel, (links_stay_sound (fun _ _ => le_refl 1) rfl startedSample_eq (by decide +kernel)
    timely_carriedSample (by decide +kernel)).1⟩

/-- Over every run from startup, once a link has registered, no datagram of the client is
dropped while a link is usable. -/
theorem client_data_is_carried {exp : ℚ → ℚ} (bounded : ∀ x ≤ 0, exp x ≤ 1)
    (quality : ext.calculate = calculateQualityMultiplier exp)
    (started : startup ext host port dial ips weights groupId probeId rehomeEnabled now = some s)
    (distinct : (s.conns.map (·.connId)).Nodup) (timely : ∀ e ∈ es, e.Timely)
    (fresh : EachStep (step ext) (fun s e => s.drawsFreshIds e = true) s es) :
    EachStep (step ext) (fun s e => s.Carries ext e) s es := by
  have positive : ∀ c t, 0 < ext.calculate c t := by
    rw [quality]
    exact calculateQualityMultiplier_pos bounded
  have sound := (bondSound_run positive (bondSound_startup started distinct) timely fresh).1
  refine eachStep_of_history fun x member => ?_
  have here := sound.of_mem_history member
  cases at_x : x.2 with
  | data pkt src sends config criticalWindow now =>
    exact carries_data positive here pkt src sends config criticalWindow now
  | _ => trivial

/-- One packet goes to each uplink. -/
theorem client_data_is_carried_sample :
    EachStep (step ratedExternals) (fun s e => s.Carries ratedExternals e) startedSample carriedSample ∧
      ((history (step ratedExternals) startedSample carriedSample).flatMap fun x =>
        (x.1.traffic ratedExternals x.2).copies) = [⟨1, [0, 0, 0, 7]⟩, ⟨2, [0, 0, 0, 8]⟩] :=
  ⟨client_data_is_carried (fun _ _ => le_refl 1) rfl startedSample_eq (by decide +kernel)
    timely_carriedSample (by decide +kernel), by decide +kernel⟩

end Sender

end SrtlaSend
