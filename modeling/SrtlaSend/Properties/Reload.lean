import SrtlaSend.Properties.UplinkGate
import SrtlaSend.Properties.LinkSteps

/-!
# Reloads

A reload decides on labels which uplinks stay, on addresses what they weigh, on
connection ids what is cleaned up, and on a position what was selected.
`Converged` says that the four views agree with the list in force. Every reload
restores it, and no other event touches what it speaks of.
-/

namespace SrtlaSend

open Runs Pointwise SrtlaConnection

/-! ### Uplinks between reloads -/

/-- No write changes which uplink a link is. -/
theorem sameUplink_linkStep {c c' : SrtlaConnection} (step : LinkStep c c') : SameUplink c c' := by
  cases step with
  | queueData data seq now => exact (sameLife_queueDataPacket c data seq now).uplink
  | queueProbe data seq now => exact (sameLife_queueProbePacket c data seq now).uplink
  | probeTurn =>
    simp only [stallProbeDue]
    split <;> rfl
  | takeBatch now => exact (sameLife_takeBatch c now).uplink
  | noteSent now => rfl
  | recover => rfl
  | pass config _ frame => exact (sameLife_pass frame).uplink
  | verdict v => rfl
  | noteReceived now =>
    simp only [noteReceived]
    split <;> rfl
  | keepaliveEcho data now => exact (sameLife_handleKeepaliveEcho c data now).uplink
  | acceptReg3 now => rfl
  | acceptRegErr => rfl
  | srtAck ack now owns => exact (sameLife_of_feedback (handleSrtAck_frame c ack now owns)).uplink
  | srtlaAck seq classic now =>
    exact (sameLife_of_feedback (handleSrtlaAckSpecific_frame c seq classic now)).uplink
  | srtlaAckGlobal => exact (sameLife_of_feedback (handleSrtlaAckGlobal_frame c)).uplink
  | nak seq now => exact (sameLife_of_feedback (handleNak_frame c seq now)).uplink
  | keepalive now => exact (sameLife_keepalivePacket c now).uplink
  | windowRecovery now => exact (sameLife_performWindowRecovery c now).uplink
  | bitrate now => rfl
  | updatePhase now => exact (sameLife_updatePhase c now).uplink
  | batchRegime => rfl
  | renewGrace deadline => rfl
  | reconnectAttempt now => rfl
  | reset now => rfl

theorem BondSteps.uplinks {conns conns' : List SrtlaConnection} (steps : BondSteps conns conns') :
    SameUplinks conns conns' :=
  steps.imp fun _ _ writes =>
    writes.related SameUplink.refl (fun _ _ _ first second => first.trans second)
      fun _ _ => sameUplink_linkStep

namespace DataPath

theorem forwardViaConnection_selected (s : DataPath) (selIdx : Nat) (pkt : Bytes)
    (seq : Option Nat) (connIo : ConnIoMap) (sends : Sends) (packetTimeMs i : Nat)
    (selected : (s.forwardViaConnection selIdx pkt seq connIo sends packetTimeMs).lastSelectedIdx =
      some i) : s.lastSelectedIdx = some i ∨ i < s.conns.length := by
  simp only [forwardViaConnection] at selected
  cases at_sel : s.conns[selIdx]? with
  | none =>
    rw [at_sel] at selected
    exact Or.inl selected
  | some c =>
    rw [at_sel] at selected
    obtain rfl := Option.some.inj selected
    exact Or.inr (List.getElem?_eq_some_iff.mp at_sel).1

theorem deliver_selected (s : DataPath) (selIdx : Nat) (pkt : Bytes) (connIo : ConnIoMap)
    (sends : Sends) (packetTimeMs i : Nat)
    (selected : (s.deliver selIdx pkt connIo sends packetTimeMs).lastSelectedIdx = some i) :
    s.lastSelectedIdx = some i ∨ i < s.conns.length := by
  simp only [deliver] at selected
  split at selected
  · exact forwardViaConnection_selected s selIdx pkt _ connIo sends packetTimeMs i selected
  · exact forwardViaConnection_selected s selIdx pkt _ connIo sends packetTimeMs i selected

/-- A packet selects an uplink of the bond, or the selection is the old one. -/
theorem handleSrtPacket_selected (calculate : SrtlaConnection → Nat → ℚ) (s : DataPath)
    (pkt : Bytes) (src : SocketAddr) (connIo : ConnIoMap) (sends : Sends)
    (registrationComplete : Bool) (config : ConfigSnapshot) (criticalWindow : CriticalWindow)
    (packetTimeMs i : Nat)
    (selected : (s.handleSrtPacket calculate pkt src connIo sends registrationComplete config
      criticalWindow packetTimeMs).lastSelectedIdx = some i) :
    s.lastSelectedIdx = some i ∨ i < s.conns.length := by
  simp only [handleSrtPacket] at selected
  -- an empty packet is dropped; before the registration another rule chooses
  split at selected
  · exact Or.inl selected
  · split at selected
    · split at selected
      · exact forwardViaConnection_selected s _ pkt _ connIo sends packetTimeMs i selected
      · exact Or.inl selected
    · have length := ((traffic_linkSteps calculate).routePacket s pkt packetTimeMs config
        criticalWindow).length_eq
      split at selected
      · rw [length]
        exact deliver_selected
          { s with conns := (s.routePacket calculate pkt packetTimeMs config criticalWindow).1 } _ pkt
          connIo sends packetTimeMs i selected
      · exact Or.inl selected

end DataPath

namespace Sender

theorem handleUplinkPacket_lastSelectedIdx (hashOf : Bytes → Nat) (s : Sender) (connId : Nat)
    (bytes : Bytes) (env : UplinkEnv) :
    (s.handleUplinkPacket hashOf connId bytes env).lastSelectedIdx = s.lastSelectedIdx :=
  congrArg (fun t => t.lastSelectedIdx) (s.handleUplinkPacket_frame hashOf connId bytes env)

theorem handleHousekeeping_lastSelectedIdx (env : HousekeepingEnv) (s : Sender) :
    (s.handleHousekeeping env).1.lastSelectedIdx = s.lastSelectedIdx := by
  rw [← (sameSetting_driven env s).lastSelectedIdx]
  -- the check of the timer does not touch it, whether the bond moves or not
  cases s.passEnd env with
  | alive _ _ after => rw [after]
  | allFailed _ _ rehome after => rw [after]
  | moved _ _ _ _ _ newRemote _ _ _ _ rehome after =>
    rw [after]
    rfl

/-- The sender keeps its uplinks, and its selection stays the old one or is one of them. -/
structure Keeps (s s' : Sender) : Prop where
  uplinks : SameUplinks s.conns s'.conns
  selected : ∀ i, s'.lastSelectedIdx = some i → s.lastSelectedIdx = some i ∨ i < s.conns.length

/-- An event that is not a reload keeps the uplinks. -/
theorem keeps_step (ext : Externals) (s : Sender) {e : Event} (other : ∀ env, e ≠ .reload env) :
    s.Keeps (s.step ext e) := by
  refine ⟨(bondSteps_step ext s other).uplinks, fun i selected => ?_⟩
  cases e with
  | data pkt src sends config criticalWindow now =>
    exact DataPath.handleSrtPacket_selected _ s.toDataPath pkt src s.connIo sends _ config
      criticalWindow now i selected
  | uplink connId bytes env =>
    rw [step_uplink, handleUplinkPacket_lastSelectedIdx] at selected
    exact Or.inl selected
  | flush sends now => exact Or.inl selected
  | housekeeping env =>
    rw [step_housekeeping, handleHousekeeping_lastSelectedIdx] at selected
    exact Or.inl selected
  | classify verdict => exact Or.inl selected
  | reload env => exact absurd rfl (other env)

end Sender

/-! ### Lists and labels -/

theorem uplinkLabel_injective {showIp : IpAddr → String} (injective : Function.Injective showIp)
    (host : String) (port : Nat) : Function.Injective (uplinkLabel showIp host port) := by
  intro ip ip' same
  simp only [uplinkLabel] at same
  exact injective ((String.append_right_inj _).mp same)

/-- The weight of an address in a list that was weighted address by address. -/
theorem weightFor_map (f : IpAddr → Nat) {ips : List IpAddr} {ip : IpAddr} (listed : ip ∈ ips) :
    weightFor ips (ips.map f) ip = f ip := by
  obtain ⟨i, found⟩ := Option.isSome_iff_exists.mp (List.isSome_idxOf?.mpr listed)
  obtain ⟨inside, here, -⟩ := List.idxOf?_eq_some_iff.mp found
  have weight : (ips.map f)[i]? = some (f ip) := by
    rw [List.getElem?_map, List.getElem?_eq_getElem inside, here, Option.map_some]
  simp only [weightFor, found, Option.bind_some, weight, Option.getD_some]

/-! ### What a reload does -/

section Apply

variable {ext : Externals} {s : Sender} {env : ReloadEnv}

/-- A link that stays, with the weight the list gives it. -/
def reweighted (env : ReloadEnv) (c : SrtlaConnection) : SrtlaConnection :=
  { c with linkWeight := weightFor env.newIps env.newWeights c.localIp }

/-- The link dialled for an address. -/
def addedLink (ext : Externals) (env : ReloadEnv) (ip : IpAddr) (d : Dialed) : SrtlaConnection :=
  { SrtlaConnection.newRegistering d.connId
      (uplinkLabel ext.showIp env.receiverHost env.receiverPort ip) ip d.now with
    linkWeight := weightFor env.newIps env.newWeights ip }

/-- The addresses a reload dials with success, each with what it got. -/
def dialedBy (ext : Externals) (s : Sender) (env : ReloadEnv) : List (IpAddr × Dialed) :=
  (s.missing ext env).filterMap fun ip => (env.dial ip).map fun d => (ip, d)

theorem mem_dialedBy {ip : IpAddr} {d : Dialed} :
    (ip, d) ∈ dialedBy ext s env ↔ ip ∈ s.missing ext env ∧ env.dial ip = some d := by
  simp only [dialedBy, List.mem_filterMap, Option.map_eq_some_iff, Prod.mk.injEq]
  constructor
  · rintro ⟨ip', member, d', dialed, rfl, rfl⟩
    exact ⟨member, dialed⟩
  · rintro ⟨member, dialed⟩
    exact ⟨ip, member, d, dialed, rfl, rfl⟩

theorem conns_applyReload :
    (s.applyReload ext.showIp env).conns =
      (s.conns.filter (Sender.wanted ext env)).map (reweighted env) ++
        (dialedBy ext s env).map fun entry => addedLink ext env entry.1 entry.2 := by
  simp only [Sender.applyReload, applyConnectionChanges, createConnectionsFromIps,
    filterMap_zipIdx_dial]
  refine congrArg₂ (· ++ ·) rfl (List.map_congr_left fun entry member => ?_)
  obtain ⟨ip, d⟩ := entry
  have listed : ip ∈ s.missing ext env := (mem_dialedBy.mp member).1
  exact congrArg (fun weight =>
    { SrtlaConnection.newRegistering d.connId
        (uplinkLabel ext.showIp env.receiverHost env.receiverPort ip) ip d.now with
      linkWeight := weight }) (weightFor_map (weightFor env.newIps env.newWeights) listed)

/-- The ids of the uplinks a reload drops. -/
def removedIds (ext : Externals) (s : Sender) (env : ReloadEnv) : List Nat :=
  (s.conns.filter fun c => !Sender.wanted ext env c).map (·.connId)

/-- The bond gets shorter exactly if some uplink is dropped. -/
theorem filter_wanted_length :
    (s.conns.filter (Sender.wanted ext env)).length = s.conns.length ↔ removedIds ext s env = [] := by
  rw [List.length_filter_eq_length_iff, removedIds, List.map_eq_nil_iff, List.filter_eq_nil_iff]
  simp

theorem connIo_applyReload :
    (s.applyReload ext.showIp env).connIo =
      (dialedBy ext s env).foldl (fun io entry => io.insert entry.2.connId entry.2.remote)
        ((removedIds ext s env).foldl (fun io id => io.erase id) s.connIo) := by
  simp only [Sender.applyReload, applyConnectionChanges, createConnectionsFromIps,
    filterMap_zipIdx_dial]
  refine congrArg (List.foldl _ · _) ?_
  split
  · rfl
  case isFalse whole =>
    rw [filter_wanted_length.mp (not_not.mp whole)]
    rfl

theorem tracker_applyReload :
    (s.applyReload ext.showIp env).tracker =
      (removedIds ext s env).foldl (·.removeConnection) s.tracker := by
  simp only [Sender.applyReload, applyConnectionChanges]
  split
  · rfl
  case isFalse whole =>
    rw [filter_wanted_length.mp (not_not.mp whole)]
    rfl

theorem lastSelectedIdx_applyReload :
    (s.applyReload ext.showIp env).lastSelectedIdx =
      if removedIds ext s env = [] then s.lastSelectedIdx else none := by
  simp only [Sender.applyReload, applyConnectionChanges]
  split
  case isTrue shrunk => rw [if_neg (mt filter_wanted_length.mpr shrunk)]
  case isFalse whole => rw [if_pos (filter_wanted_length.mp (not_not.mp whole))]

end Apply

theorem SequenceTracker.forgets_foldl {ids : List Nat} {id : Nat} (t : SequenceTracker)
    (removed : id ∈ ids ∨ t.Forgets id) : (ids.foldl (·.removeConnection) t).Forgets id := by
  induction ids generalizing t with
  | nil => exact removed.resolve_left List.not_mem_nil
  | cons first rest ih =>
    refine ih (t.removeConnection first) ?_
    rcases removed with member | forgot
    · rcases List.mem_cons.mp member with rfl | later
      · exact Or.inr (t.forgets_removeConnection id)
      · exact Or.inl later
    · exact Or.inr (forgot.removeConnection first)

/-! ### The list in force -/

/-- One uplink for each address of the list, with its weight there. -/
structure OnePerIp (ips : List IpAddr) (weights : List Nat) (s : Sender) : Prop where
  distinct : (s.conns.map (·.localIp)).Nodup
  covered : ∀ ip, ip ∈ s.conns.map (·.localIp) ↔ ip ∈ ips
  weighted : ∀ c ∈ s.conns, c.linkWeight = weightFor ips weights c.localIp

/-- Labels, addresses, ids and the selection agree with the list. -/
structure Converged (ext : Externals) (host : String) (port : Nat) (ips : List IpAddr)
    (weights : List Nat) (s : Sender) : Prop extends OnePerIp ips weights s where
  labelled : ∀ c ∈ s.conns, c.label = uplinkLabel ext.showIp host port c.localIp
  ids : (s.conns.map (·.connId)).Nodup
  selected : ∀ i, s.lastSelectedIdx = some i → i < s.conns.length

/-- A reload that goes to the same receiver and opens every uplink it needs. -/
def Sender.opensUplinks (host : String) (port : Nat) : Event → Bool
  | .reload env =>
    env.receiverHost == host && env.receiverPort == port &&
      env.newIps.all fun ip => (env.dial ip).isSome
  | _ => true

/-- What a reload does to the uplinks there were. -/
structure ReloadStep (ext : Externals) (s : Sender) (env : ReloadEnv) (s' : Sender) : Prop where
  /-- Those whose address stays are the first of the bond, in order, and only their weight is set. -/
  kept : ∃ added,
    s'.conns =
      (s.conns.filter fun c => decide (c.localIp ∈ env.newIps)).map (reweighted env) ++ added ∧
    ∀ c ∈ added, c.localIp ∉ s.conns.map (·.localIp)
  io : ∀ c ∈ s.conns, c.localIp ∈ env.newIps → s'.connIo.lookup c.connId = s.connIo.lookup c.connId
  removed : ∀ c ∈ s.conns, c.localIp ∉ env.newIps →
    s'.connIo.lookup c.connId = none ∧ s'.tracker.Forgets c.connId
  again : ∀ env' : ReloadEnv, env'.newIps = env.newIps → env'.newWeights = env.newWeights →
    env'.receiverHost = env.receiverHost → env'.receiverPort = env.receiverPort →
    s'.applyReload ext.showIp env' = s'
  selected : ∀ i, s'.lastSelectedIdx = some i →
    s.lastSelectedIdx = some i ∧ ∃ id, s.idAt i = some id ∧ s'.idAt i = some id

section Converge

variable {ext : Externals} {host : String} {port : Nat} {ips : List IpAddr} {weights : List Nat}
  {s : Sender} {env : ReloadEnv}

theorem Converged.wanted_eq (converged : Converged ext host port ips weights s)
    (injective : Function.Injective ext.showIp) (here : env.receiverHost = host)
    (there : env.receiverPort = port) {c : SrtlaConnection} (member : c ∈ s.conns) :
    Sender.wanted ext env c = decide (c.localIp ∈ env.newIps) := by
  have label := converged.labelled c member
  have unique := uplinkLabel_injective injective host port
  rw [Bool.eq_iff_iff, decide_eq_true_eq, Sender.wanted, List.contains_iff_mem, here, there, label,
    List.mem_map]
  -- the label tells the address
  constructor
  · rintro ⟨ip, listed, same⟩
    exact unique same ▸ listed
  · exact fun listed => ⟨c.localIp, listed, rfl⟩

theorem Converged.mem_missing (converged : Converged ext host port ips weights s)
    (injective : Function.Injective ext.showIp) (here : env.receiverHost = host)
    (there : env.receiverPort = port) {ip : IpAddr} :
    ip ∈ s.missing ext env ↔ ip ∈ env.newIps ∧ ip ∉ s.conns.map (·.localIp) := by
  have unique := uplinkLabel_injective injective host port
  rw [Sender.missing, List.mem_filter, List.mem_eraseDups, here, there, Bool.not_eq_true',
    ← Bool.not_eq_true, List.contains_iff_mem]
  refine and_congr_right fun _ => not_congr ?_
  rw [List.mem_map, List.mem_map]
  constructor
  · rintro ⟨c, member, same⟩
    exact ⟨c, member, unique ((converged.labelled c member).symm.trans same)⟩
  · rintro ⟨c, member, rfl⟩
    exact ⟨c, member, converged.labelled c member⟩

/-- The list in force applied again changes nothing. -/
theorem Converged.reload_same (converged : Converged ext host port ips weights s)
    (injective : Function.Injective ext.showIp) (here : env.receiverHost = host)
    (there : env.receiverPort = port) (sameIps : env.newIps = ips)
    (sameWeights : env.newWeights = weights) : s.applyReload ext.showIp env = s := by
  -- nobody is dropped, and nobody is dialled
  have stay : ∀ c ∈ s.conns, Sender.wanted ext env c = true := by
    intro c member
    rw [converged.wanted_eq injective here there member, decide_eq_true_eq, sameIps,
      ← converged.covered]
    exact List.mem_map.mpr ⟨c, member, rfl⟩
  have none_missing : s.missing ext env = [] := by
    refine List.eq_nil_iff_forall_not_mem.mpr fun ip member => ?_
    obtain ⟨listed, absent⟩ := (converged.mem_missing injective here there).mp member
    rw [sameIps, ← converged.covered] at listed
    exact absent listed
  have none_removed : removedIds ext s env = [] :=
    filter_wanted_length.mp (congrArg List.length (List.filter_eq_self.mpr stay))
  have none_dialed : dialedBy ext s env = [] := by
    rw [dialedBy, none_missing]
    rfl
  -- the parts a reload writes, one by one
  have conns : (s.applyReload ext.showIp env).conns = s.conns := by
    rw [conns_applyReload, none_dialed, List.filter_eq_self.mpr stay, List.map_nil, List.append_nil]
    have weight : ∀ c ∈ s.conns, reweighted env c = c := by
      intro c member
      simp only [reweighted, sameIps, sameWeights, ← converged.weighted c member]
    rw [List.map_congr_left weight, List.map_id']
  have connIo : (s.applyReload ext.showIp env).connIo = s.connIo := by
    rw [connIo_applyReload, none_dialed, none_removed]
    rfl
  have tracker : (s.applyReload ext.showIp env).tracker = s.tracker := by
    rw [tracker_applyReload, none_removed]
    rfl
  have selected : (s.applyReload ext.showIp env).lastSelectedIdx = s.lastSelectedIdx := by
    rw [lastSelectedIdx_applyReload, if_pos none_removed]
  have frame : s.applyReload ext.showIp env =
      { s with
        conns := (s.applyReload ext.showIp env).conns
        connIo := (s.applyReload ext.showIp env).connIo
        tracker := (s.applyReload ext.showIp env).tracker
        lastSelectedIdx := (s.applyReload ext.showIp env).lastSelectedIdx } := rfl
  rw [frame, conns, connIo, tracker, selected]

theorem fst_dialedBy (opens : ∀ ip ∈ env.newIps, (env.dial ip).isSome = true) :
    (dialedBy ext s env).map Prod.fst = s.missing ext env := by
  have listed : ∀ ip ∈ s.missing ext env, ip ∈ env.newIps := fun ip member =>
    List.mem_eraseDups.mp (List.mem_filter.mp member).1
  rw [dialedBy, List.map_filterMap]
  refine Eq.trans (List.filterMap_congr fun ip member => ?_) List.filterMap_some
  obtain ⟨d, dialed⟩ := Option.isSome_iff_exists.mp (opens ip (listed ip member))
  rw [dialed]
  rfl

section Reload

variable (converged : Converged ext host port ips weights s)
  (injective : Function.Injective ext.showIp) (here : env.receiverHost = host)
  (there : env.receiverPort = port)

include converged injective here there

theorem Converged.filter_wanted :
    s.conns.filter (Sender.wanted ext env) =
      s.conns.filter fun c => decide (c.localIp ∈ env.newIps) :=
  List.filter_congr fun _ member => converged.wanted_eq injective here there member

/-- The addresses of the uplinks that stay, then those that are new. -/
theorem Converged.localIps_reload (opens : ∀ ip ∈ env.newIps, (env.dial ip).isSome = true) :
    (s.applyReload ext.showIp env).conns.map (·.localIp) =
      (s.conns.filter fun c => decide (c.localIp ∈ env.newIps)).map (·.localIp) ++
        s.missing ext env := by
  rw [conns_applyReload, List.map_append, List.map_map, List.map_map,
    converged.filter_wanted injective here there, ← fst_dialedBy opens]
  rfl

/-- After a reload the bond is that of the new list. -/
theorem Converged.reload (opens : ∀ ip ∈ env.newIps, (env.dial ip).isSome = true)
    (fresh : s.drawsFreshIds (.reload env) = true) :
    Converged ext host port env.newIps env.newWeights (s.applyReload ext.showIp env) := by
  have localIps := converged.localIps_reload injective here there opens
  have absent : ∀ ip ∈ s.missing ext env, ip ∉ s.conns.map (·.localIp) := fun ip member =>
    ((converged.mem_missing injective here there).mp member).2
  refine ⟨⟨?_, ?_, ?_⟩, ?_, Sender.nodup_applyReload converged.ids fresh, ?_⟩
  · -- one uplink per address
    rw [localIps, List.nodup_append]
    refine ⟨(List.Sublist.map _ List.filter_sublist).nodup converged.distinct,
      (Sender.nodup_eraseDups env.newIps).filter _, ?_⟩
    rintro ip old ip' new rfl
    exact absent ip new (List.Sublist.subset (List.Sublist.map _ List.filter_sublist) old)
  · -- the addresses are those of the list
    intro ip
    rw [localIps, List.mem_append, converged.mem_missing injective here there]
    constructor
    · rintro (old | ⟨listed, -⟩)
      · obtain ⟨c, member, rfl⟩ := List.mem_map.mp old
        exact decide_eq_true_eq.mp (List.mem_filter.mp member).2
      · exact listed
    · intro listed
      by_cases present : ip ∈ s.conns.map (·.localIp)
      · obtain ⟨c, member, rfl⟩ := List.mem_map.mp present
        exact Or.inl (List.mem_map.mpr
          ⟨c, List.mem_filter.mpr ⟨member, decide_eq_true_eq.mpr listed⟩, rfl⟩)
      · exact Or.inr ⟨listed, present⟩
  · -- the weights, those of links that stay included
    intro c member
    rw [conns_applyReload, List.mem_append] at member
    rcases member with kept | added
    · obtain ⟨c₀, -, rfl⟩ := List.mem_map.mp kept
      rfl
    · obtain ⟨entry, -, rfl⟩ := List.mem_map.mp added
      rfl
  · -- the labels
    intro c member
    rw [conns_applyReload, List.mem_append] at member
    rcases member with kept | added
    · obtain ⟨c₀, member₀, rfl⟩ := List.mem_map.mp kept
      exact converged.labelled c₀ (List.mem_filter.mp member₀).1
    · obtain ⟨entry, -, rfl⟩ := List.mem_map.mp added
      rw [← here, ← there]
      rfl
  · -- the selection survives only a reload that drops nobody
    intro i selected
    rw [lastSelectedIdx_applyReload] at selected
    split at selected
    case isTrue whole =>
      have inside := converged.selected i selected
      rw [conns_applyReload, List.length_append, List.length_map, filter_wanted_length.mpr whole]
      exact Nat.lt_add_right _ inside
    case isFalse => cases selected

/-- What the I/O map holds for an uplink that was there: its entry if it stays. -/
theorem Converged.lookup_reload (fresh : s.drawsFreshIds (.reload env) = true) {c : SrtlaConnection}
    (member : c ∈ s.conns) :
    (s.applyReload ext.showIp env).connIo.lookup c.connId =
      if c.localIp ∈ env.newIps then s.connIo.lookup c.connId else none := by
  -- no dial drew the id of a link that was there
  have untouched : (s.applyReload ext.showIp env).connIo.lookup c.connId =
      ((removedIds ext s env).foldl (fun io id => io.erase id) s.connIo).lookup c.connId := by
    rw [connIo_applyReload]
    rcases FiniteMap.lookup_foldl_insert (fun entry : IpAddr × Dialed => entry.2.connId)
      (fun entry => entry.2.remote) (dialedBy ext s env)
      ((removedIds ext s env).foldl (fun io id => io.erase id) s.connIo) c.connId with
      ⟨⟨ip, d⟩, dialed, same, -⟩ | ⟨-, held⟩
    · obtain ⟨missing, dialed⟩ := mem_dialedBy.mp dialed
      have listed := ((converged.mem_missing injective here there).mp missing).1
      exact absurd same.symm (Sender.connId_ne_of_dialed fresh listed dialed c member)
    · exact held
  have dropped : c.connId ∈ removedIds ext s env ↔ c.localIp ∉ env.newIps := by
    rw [removedIds, List.mem_map]
    constructor
    · rintro ⟨c', member', same⟩
      obtain ⟨inside, unwanted⟩ := List.mem_filter.mp member'
      -- ids are distinct, so it is this very link that is not wanted
      obtain rfl := List.inj_on_of_nodup_map converged.ids inside member same
      rw [converged.wanted_eq injective here there inside] at unwanted
      simpa using unwanted
    · intro unlisted
      refine ⟨c, List.mem_filter.mpr ⟨member, ?_⟩, rfl⟩
      rw [converged.wanted_eq injective here there member]
      simpa using unlisted
  rw [untouched, FiniteMap.lookup_foldl_erase]
  by_cases listed : c.localIp ∈ env.newIps
  · rw [if_pos listed, if_neg (fun gone => dropped.mp gone listed)]
  · rw [if_neg listed, if_pos (dropped.mpr listed)]

theorem Converged.reloadStep (opens : ∀ ip ∈ env.newIps, (env.dial ip).isSome = true)
    (fresh : s.drawsFreshIds (.reload env) = true) :
    ReloadStep ext s env (s.applyReload ext.showIp env) := by
  have after := converged.reload injective here there opens fresh
  refine ⟨?_, fun c member listed => ?_, fun c member unlisted => ⟨?_, ?_⟩, ?_, fun i selected => ?_⟩
  · -- the links that stay come first
    refine ⟨_, by rw [conns_applyReload, converged.filter_wanted injective here there], ?_⟩
    intro c member
    obtain ⟨⟨ip, d⟩, dialed, rfl⟩ := List.mem_map.mp member
    exact ((converged.mem_missing injective here there).mp (mem_dialedBy.mp dialed).1).2
  · rw [converged.lookup_reload injective here there fresh member, if_pos listed]
  · rw [converged.lookup_reload injective here there fresh member, if_neg unlisted]
  · -- the tracker forgets whoever is dropped
    rw [tracker_applyReload]
    refine s.tracker.forgets_foldl (Or.inl ?_)
    refine List.mem_map.mpr ⟨c, List.mem_filter.mpr ⟨member, ?_⟩, rfl⟩
    rw [converged.wanted_eq injective here there member]
    simpa using unlisted
  · intro env' sameIps sameWeights sameHost samePort
    exact after.reload_same injective (sameHost.trans here) (samePort.trans there) sameIps sameWeights
  · -- nobody was dropped, so the position is that of the same uplink
    rw [lastSelectedIdx_applyReload] at selected
    split at selected
    case isTrue whole =>
      have inside := converged.selected i selected
      have stay : (s.conns.take (i + 1)).all (Sender.wanted ext env) = true := by
        have all := List.length_filter_eq_length_iff.mp (filter_wanted_length.mpr whole)
        exact List.all_eq_true.mpr fun c taken => all c (List.mem_of_mem_take taken)
      have id : s.idAt i = some (s.conns[i]).connId := by
        rw [Sender.idAt, List.getElem?_eq_getElem inside, Option.map_some]
      exact ⟨selected, _, id, (Sender.idAt_applyReload_of_wanted inside stay).trans id⟩
    case isFalse => cases selected

end Reload

theorem SameUplinks.exists_mem {conns conns' : List SrtlaConnection} (h : SameUplinks conns conns')
    {c' : SrtlaConnection} (member : c' ∈ conns') : ∃ c ∈ conns, SameUplink c c' := by
  obtain ⟨i, at_i⟩ := List.mem_iff_getElem?.mp member
  obtain ⟨c, found, same⟩ := getElem?_of_forall₂_right h at_i
  exact ⟨c, List.mem_of_getElem? found, same⟩

/-- What keeps the uplinks keeps the agreement with the list. -/
theorem Converged.of_keeps (converged : Converged ext host port ips weights s) {s' : Sender}
    (keeps : s.Keeps s') : Converged ext host port ips weights s' := by
  have localIps : s'.conns.map (·.localIp) = s.conns.map (·.localIp) :=
    map_eq_of_forall₂ (fun _ _ same => same.localIp) keeps.uplinks
  refine ⟨⟨by rw [localIps]; exact converged.distinct, fun ip => by rw [localIps, converged.covered],
    fun c' member => ?_⟩, fun c' member => ?_, by rw [keeps.uplinks.connIds]; exact converged.ids,
    fun i selected => ?_⟩
  · obtain ⟨c, inside, same⟩ := keeps.uplinks.exists_mem member
    rw [same.linkWeight, same.localIp, converged.weighted c inside]
  · obtain ⟨c, inside, same⟩ := keeps.uplinks.exists_mem member
    rw [same.label, same.localIp, converged.labelled c inside]
  · rw [← keeps.uplinks.length_eq]
    rcases keeps.selected i selected with old | inside
    · exact converged.selected i old
    · exact inside

/-! ### Startup -/

section Startup

variable {dial : Nat → IpAddr → Option Dialed} {id probeId : SrtlaId} {enabled : Bool} {now : Nat}
  {start : Sender}

/-- The links dialled at startup, as the loop finds them. -/
theorem conns_startup
    (started : Sender.startup ext host port dial ips weights id probeId enabled now = some start) :
    start.lastSelectedIdx = none ∧
    SameUplinks
      (createConnectionsFromIps ext.showIp host port dial ips weights ∅).1 start.conns := by
  simp only [Sender.startup] at started
  split at started
  · cases started
  · obtain rfl := Option.some.inj started
    exact ⟨rfl, Sender.sameUplinks_startProbing (.new id probeId) _ now⟩

theorem localIps_startup
    (started : Sender.startup ext host port dial ips weights id probeId enabled now = some start)
    (opens : ∀ entry ∈ ips.zipIdx, (dial entry.2 entry.1).isSome = true) :
    start.conns.map (·.localIp) = ips := by
  have dialed : start.conns.map (·.localIp) =
      (createConnectionsFromIps ext.showIp host port dial ips weights ∅).1.map (·.localIp) :=
    map_eq_of_forall₂ (fun _ _ same => same.localIp) (conns_startup started).2
  -- every address was dialled
  have all : (ips.zipIdx.filterMap fun entry => (dial entry.2 entry.1).map fun d =>
      (entry.1, d)).map Prod.fst = ips.zipIdx.map Prod.fst := by
    rw [List.map_filterMap, ← List.filterMap_eq_map]
    refine List.filterMap_congr fun entry member => ?_
    obtain ⟨d, dialed⟩ := Option.isSome_iff_exists.mp (opens entry member)
    simp only [dialed]
    rfl
  rw [dialed]
  simp only [createConnectionsFromIps, List.map_map]
  rw [List.zipIdx_map_fst] at all
  exact all

/-- A list without repetitions is in force when the loop is entered. -/
theorem converged_startup
    (started : Sender.startup ext host port dial ips weights id probeId enabled now = some start)
    (opens : ∀ entry ∈ ips.zipIdx, (dial entry.2 entry.1).isSome = true)
    (draws : (ips.zipIdx.filterMap fun entry => (dial entry.2 entry.1).map (·.connId)).Nodup)
    (distinct : ips.Nodup) : Converged ext host port ips weights start := by
  have localIps := localIps_startup started opens
  obtain ⟨unselected, uplinks⟩ := conns_startup started
  refine ⟨⟨by rw [localIps]; exact distinct, fun ip => by rw [localIps], fun c' member => ?_⟩,
    fun c' member => ?_, ?_, fun i selected => ?_⟩
  · -- weights and labels are those the links were created with
    obtain ⟨c, inside, same⟩ := uplinks.exists_mem member
    obtain ⟨entry, -, rfl⟩ := List.mem_map.mp inside
    rw [same.linkWeight, same.localIp]
    rfl
  · obtain ⟨c, inside, same⟩ := uplinks.exists_mem member
    obtain ⟨entry, -, rfl⟩ := List.mem_map.mp inside
    rw [same.label, same.localIp]
    rfl
  · -- the ids are those the dials drew
    rw [uplinks.connIds]
    have drawn : (createConnectionsFromIps ext.showIp host port dial ips weights ∅).1.map (·.connId) =
        ips.zipIdx.filterMap fun entry => (dial entry.2 entry.1).map (·.connId) := by
      simp only [createConnectionsFromIps, List.map_filterMap]
      refine List.filterMap_congr fun entry _ => ?_
      cases dial entry.2 entry.1 with
      | none => rfl
      | some d => rfl
    rw [drawn]
    exact draws
  · rw [unselected] at selected
    cases selected

end Startup

end Converge

/-! ### Runs -/

/-- The list of the last reload, or the one the sender was started with. -/
def listInForce (initial : List IpAddr × List Nat) (events : List Event) : List IpAddr × List Nat :=
  events.foldl
    (fun list e =>
      match e with
      | .reload env => (env.newIps, env.newWeights)
      | _ => list)
    initial

/-- A reload opens its uplinks, under new ids. -/
def Sender.appliesReload (host : String) (port : Nat) (s : Sender) (e : Event) : Prop :=
  Sender.opensUplinks host port e = true ∧ s.drawsFreshIds e = true

instance (host : String) (port : Nat) (s : Sender) (e : Event) :
    Decidable (s.appliesReload host port e) :=
  inferInstanceAs (Decidable (_ ∧ _))

section Runs

variable {ext : Externals} {host : String} {port : Nat}

theorem Sender.appliesReload.spec {s : Sender} {env : ReloadEnv}
    (applies : s.appliesReload host port (.reload env)) :
    env.receiverHost = host ∧ env.receiverPort = port ∧
      ∀ ip ∈ env.newIps, (env.dial ip).isSome = true := by
  have opens := applies.1
  simp only [Sender.opensUplinks, Bool.and_eq_true, beq_iff_eq, List.all_eq_true] at opens
  exact ⟨opens.1.1, opens.1.2, opens.2⟩

theorem Converged.run {initial : List IpAddr × List Nat} {start : Sender}
    (injective : Function.Injective ext.showIp)
    (converged : Converged ext host port initial.1 initial.2 start) {events : List Event}
    (steps : EachStep (Sender.step ext) (Sender.appliesReload host port) start events) :
    Converged ext host port (listInForce initial events).1 (listInForce initial events).2
      (run (Sender.step ext) start events) := by
  induction events using List.reverseRecOn with
  | nil => exact converged
  | append_singleton before e ih =>
    obtain ⟨earlier, last⟩ := (eachStep_append _ _ _ _ _).mp steps
    -- a reload installs its own list, any other event keeps the one there is
    have now := ih earlier
    rw [run_append, run_cons, run_nil]
    simp only [listInForce, List.foldl_append, List.foldl_cons, List.foldl_nil]
    cases e with
    | reload env =>
      obtain ⟨here, there, opens⟩ := last.1.spec
      exact now.reload injective here there opens last.1.2
    | data => exact now.of_keeps (Sender.keeps_step ext _ fun env => by simp)
    | uplink => exact now.of_keeps (Sender.keeps_step ext _ fun env => by simp)
    | flush => exact now.of_keeps (Sender.keeps_step ext _ fun env => by simp)
    | housekeeping => exact now.of_keeps (Sender.keeps_step ext _ fun env => by simp)
    | classify => exact now.of_keeps (Sender.keeps_step ext _ fun env => by simp)

end Runs

/-- From startup on and after every reload the uplinks are those of the list in force,
exactly if the list the sender was started with has no address twice. -/
theorem reload_converges_iff (ext : Externals) (injective : Function.Injective ext.showIp)
    (host : String) (port : Nat) (dial : Nat → IpAddr → Option Dialed) (ips : List IpAddr)
    (weights : List Nat) (id probeId : SrtlaId) (enabled : Bool) (now : Nat) (start : Sender)
    (events : List Event)
    (started : Sender.startup ext host port dial ips weights id probeId enabled now = some start)
    (opens : ∀ entry ∈ ips.zipIdx, (dial entry.2 entry.1).isSome = true)
    (draws : (ips.zipIdx.filterMap fun entry => (dial entry.2 entry.1).map (·.connId)).Nodup)
    (steps : EachStep (Sender.step ext) (Sender.appliesReload host port) start events) :
    ips.Nodup ↔
      (∀ before after, events = before ++ after →
        OnePerIp (listInForce (ips, weights) before).1 (listInForce (ips, weights) before).2
          (run (Sender.step ext) start before)) ∧
      ∀ before env after, events = before ++ .reload env :: after →
        ReloadStep ext (run (Sender.step ext) start before) env
          (run (Sender.step ext) start (before ++ [.reload env])) := by
  constructor
  · -- the agreement with the list is the invariant that carries the run
    intro distinct
    have initial := converged_startup started opens draws distinct
    have converged : ∀ before after, events = before ++ after →
        Converged ext host port (listInForce (ips, weights) before).1
          (listInForce (ips, weights) before).2 (run (Sender.step ext) start before) := by
      rintro before after rfl
      exact Converged.run injective (show Converged ext host port (ips, weights).1 (ips, weights).2 start from initial)
        ((eachStep_append _ _ _ _ _).mp steps).1
    refine ⟨fun before after cut => (converged before after cut).toOnePerIp, ?_⟩
    intro before env after cut
    have applies := ((eachStep_iff _ _ _ _).mp steps) before (.reload env) after cut
    obtain ⟨here, there, opens⟩ := applies.spec
    rw [run_append, run_cons, run_nil]
    exact (converged before _ cut).reloadStep injective here there opens applies.2
  · -- at startup the addresses of the uplinks are the list itself
    rintro ⟨onePerIp, -⟩
    have distinct := (onePerIp [] events rfl).distinct
    rw [run_nil, localIps_startup started opens] at distinct
    exact distinct

namespace Sample

/-- Two addresses in their usual form, the others in one that can be read back. -/
def showIp (ip : IpAddr) : String :=
  String.ofList <|
    if ip = .v4 0x0a000001 then ['1', '0', '.', '0', '.', '0', '.', '1']
    else if ip = .v4 0x0a000002 then ['1', '0', '.', '0', '.', '0', '.', '2']
    else
      match ip with
      | .v4 bits => '4' :: List.replicate bits '.'
      | .v6 bits => '6' :: List.replicate bits '.'

def readIp (text : String) : IpAddr :=
  match text.toList with
  | '4' :: rest => .v4 rest.length
  | '6' :: rest => .v6 rest.length
  | chars => if chars.getLast? = some '1' then .v4 0x0a000001 else .v4 0x0a000002

theorem showIp_injective : Function.Injective showIp := by
  have readBack : Function.LeftInverse readIp showIp := by
    intro ip
    simp only [readIp, showIp, String.toList_ofList]
    split_ifs with first second
    · rw [first]
      rfl
    · rw [second]
      rfl
    · cases ip with
      | v4 bits => simp only [List.length_replicate]
      | v6 bits => simp only [List.length_replicate]
  exact readBack.injective

/-- The uplinks of the list are dialled at once, under the ids 1, 2 and so on. -/
def startUplinks (ips : List IpAddr) (weights : List Nat) : Option Sender :=
  Sender.startup { externals with showIp } "receiver" 5000 (fun i _ => some ⟨i + 1, receiver, 500⟩) ips
    weights (groupId 1) (groupId 2) false 500

/-- A reload to the given list; the uplinks it dials have ids from ten on. -/
def reloadTo (ips : List IpAddr) (weights : List Nat) : Event :=
  .reload
    { newIps := ips, newWeights := weights, receiverHost := "receiver", receiverPort := 5000,
      dial := fun ip => some ⟨10 + ips.idxOf ip, receiver, 900⟩ }

end Sample

/-- A bond of one uplink is reloaded to two, with weights, and back to the second. -/
theorem reload_converges_sample :
    ∃ start, Sample.startUplinks [.v4 0x0a000001] [1] = some start ∧
      ∀ before after,
        [Sample.reloadTo [.v4 0x0a000001, .v4 0x0a000002] [1, 3], Sample.reloadTo [.v4 0x0a000002] [1]] =
          before ++ after →
        OnePerIp (listInForce ([.v4 0x0a000001], [1]) before).1
          (listInForce ([.v4 0x0a000001], [1]) before).2
          (run (Sender.step { Sample.externals with showIp := Sample.showIp }) start before) := by
  obtain ⟨start, started⟩ := Option.isSome_iff_exists.mp
    (show (Sample.startUplinks [.v4 0x0a000001] [1]).isSome = true by decide +kernel)
  have steps : EachStep (Sender.step { Sample.externals with showIp := Sample.showIp })
      (Sender.appliesReload "receiver" 5000) start
      [Sample.reloadTo [.v4 0x0a000001, .v4 0x0a000002] [1, 3], Sample.reloadTo [.v4 0x0a000002] [1]] := by
    have same : start = (Sample.startUplinks [.v4 0x0a000001] [1]).get (by decide +kernel) := by
      simp only [started, Option.get_some]
    rw [same]
    decide +kernel
  exact ⟨start, started, ((reload_converges_iff { Sample.externals with showIp := Sample.showIp }
    Sample.showIp_injective "receiver" 5000 (fun i _ => some ⟨i + 1, Sample.receiver, 500⟩)
    [.v4 0x0a000001] [1] (Sample.groupId 1) (Sample.groupId 2) false 500 start _ started (by decide)
    (by decide) steps).mp (by decide)).1⟩

/-- One address, twice. -/
def Sample.twice : Sender :=
  (Sample.startUplinks [.v4 0x0a000001, .v4 0x0a000001] [1, 1]).get (by decide +kernel)

/-- Started with one address twice the bond has two uplinks for it, and a reload with the same
list leaves both. -/
theorem startup_keeps_duplicates :
    ∃ start, Sample.startUplinks [.v4 0x0a000001, .v4 0x0a000001] [1, 1] = some start ∧
      start.conns.map (·.localIp) = [.v4 0x0a000001, .v4 0x0a000001] ∧
      ¬ OnePerIp [.v4 0x0a000001, .v4 0x0a000001] [1, 1] start ∧
      Sender.appliesReload "receiver" 5000 start
        (Sample.reloadTo [.v4 0x0a000001, .v4 0x0a000001] [1, 1]) ∧
      ¬ OnePerIp [.v4 0x0a000001, .v4 0x0a000001] [1, 1]
        (start.step { Sample.externals with showIp := Sample.showIp }
          (Sample.reloadTo [.v4 0x0a000001, .v4 0x0a000001] [1, 1])) := by
  refine ⟨Sample.twice, (Option.some_get _).symm, by decide +kernel, fun one => ?_,
    by decide +kernel, fun one => ?_⟩
  · exact absurd one.distinct (by decide +kernel)
  · exact absurd one.distinct (by decide +kernel)

end SrtlaSend
