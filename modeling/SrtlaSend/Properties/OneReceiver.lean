import SrtlaSend.Properties.Reload

/-!
# One receiver for the whole bond

Three paths decide the remote of an uplink: a reload dials the ones it adds, a
reconnect keeps what the I/O map holds, and a re-home swaps all at once. The last
two cannot split the bond. A reload resolves the receiver's name again, and what
it gets need not be where the bond is.
-/

namespace SrtlaSend

open Runs Pointwise SrtlaConnection

/-- What may change the remote of an uplink. -/
inductive RemoteOp
  | reload (env : ReloadEnv)
  | reconnect (i : Nat) (opened : Bool) (now : Nat)
  | rehome (env : RehomeEnv) (now : Nat)

namespace Sender

def remoteStep (ext : Externals) (s : Sender) : RemoteOp → Sender
  | .reload env => s.applyReload ext.showIp env
  | .reconnect i opened now =>
    match s.conns[i]? with
    | none => s
    | some c =>
      let (c, tracker) := rebuildUplink s.connIo (fun _ => opened) now c s.tracker
      { s with conns := s.conns.set i c, tracker }
  | .rehome env now => (s.tryRehome env now).1

/-- The bond is pinned to at most one address. -/
def AtOneReceiver (s : Sender) : Prop :=
  ∀ remote ∈ s.pinnedRemotes, ∀ remote' ∈ s.pinnedRemotes, remote = remote'

instance (s : Sender) : Decidable s.AtOneReceiver :=
  inferInstanceAs (Decidable (∀ remote ∈ s.pinnedRemotes, ∀ remote' ∈ s.pinnedRemotes, remote = remote'))

/-- The addresses the dials of a reload resolve to. -/
def dialedRemotes (ext : Externals) (s : Sender) (env : ReloadEnv) : List SocketAddr :=
  (s.missing ext env).filterMap fun ip => (env.dial ip).map (·.remote)

/-- The addresses of the uplinks that stay in a reload. -/
def stayingRemotes (ext : Externals) (s : Sender) (env : ReloadEnv) : List SocketAddr :=
  (s.conns.filter (wanted ext env)).filterMap fun c => s.connIo.lookup c.connId

/-- Every address a reload resolves is that of the uplinks that stay, and that of the
other ones it adds. -/
def joinsBond (ext : Externals) (s : Sender) : RemoteOp → Bool
  | .reload env =>
    (s.dialedRemotes ext env).all fun remote =>
      (s.stayingRemotes ext env ++ s.dialedRemotes ext env).all (· == remote)
  | _ => true

section Step

variable {ext : Externals} {s : Sender}

/-- After a reload an uplink is where it was, or where a dial of this reload went. -/
theorem mem_pinnedRemotes_reload {env : ReloadEnv} {remote : SocketAddr}
    (pinned : remote ∈ (s.applyReload ext.showIp env).pinnedRemotes) :
    remote ∈ s.stayingRemotes ext env ∨ remote ∈ s.dialedRemotes ext env := by
  obtain ⟨c, member, entry⟩ := mem_pinnedRemotes.mp pinned
  rw [connIo_applyReload] at entry
  rcases FiniteMap.lookup_foldl_insert (fun entry : IpAddr × Dialed => entry.2.connId)
    (fun entry => entry.2.remote) (dialedBy ext s env)
    ((removedIds ext s env).foldl (fun io id => io.erase id) s.connIo) c.connId with
    ⟨⟨ip, d⟩, dialed, -, held⟩ | ⟨undialed, held⟩
  · right
    obtain ⟨missing, answer⟩ := mem_dialedBy.mp dialed
    rw [held] at entry
    refine List.mem_filterMap.mpr ⟨ip, missing, ?_⟩
    rw [answer, Option.map_some, ← entry]
  · left
    rw [held, FiniteMap.lookup_foldl_erase] at entry
    split at entry
    · cases entry
    · -- not a new link, since no dial drew its id
      rw [conns_applyReload, List.mem_append] at member
      rcases member with kept | added
      · obtain ⟨c₀, member₀, rfl⟩ := List.mem_map.mp kept
        exact List.mem_filterMap.mpr ⟨c₀, member₀, entry⟩
      · obtain ⟨new, dialed, rfl⟩ := List.mem_map.mp added
        exact absurd rfl (undialed new dialed)

theorem AtOneReceiver.reload {env : ReloadEnv} (one : s.AtOneReceiver)
    (joins : s.joinsBond ext (.reload env) = true) :
    (s.applyReload ext.showIp env).AtOneReceiver := by
  have together : ∀ dialed ∈ s.dialedRemotes ext env, ∀ remote,
      remote ∈ s.stayingRemotes ext env ∨ remote ∈ s.dialedRemotes ext env → remote = dialed := by
    intro dialed member remote either
    have all := List.all_eq_true.mp (List.all_eq_true.mp joins dialed member) remote
      (List.mem_append.mpr either)
    exact beq_iff_eq.mp all
  have stayed : ∀ remote ∈ s.stayingRemotes ext env, remote ∈ s.pinnedRemotes := by
    intro remote member
    obtain ⟨c, kept, entry⟩ := List.mem_filterMap.mp member
    exact mem_pinnedRemotes.mpr ⟨c, (List.mem_filter.mp kept).1, entry⟩
  intro remote pinned remote' pinned'
  rcases mem_pinnedRemotes_reload pinned with old | new
  · rcases mem_pinnedRemotes_reload pinned' with old' | new'
    · exact one remote (stayed remote old) remote' (stayed remote' old')
    · exact together remote' new' remote (Or.inl old)
  · exact (together remote new remote' (mem_pinnedRemotes_reload pinned')).symm

/-- A reconnect keeps the remote, whether the socket opens or not. -/
theorem AtOneReceiver.reconnect (one : s.AtOneReceiver) (i : Nat) (opened : Bool) (now : Nat) :
    (s.remoteStep ext (.reconnect i opened now)).AtOneReceiver := by
  simp only [remoteStep]
  cases at_i : s.conns[i]? with
  | none => exact one
  | some c =>
    have ids : SameUplinks s.conns
        (s.conns.set i (rebuildUplink s.connIo (fun _ => opened) now c s.tracker).1) :=
      forall₂_set SameUplink.refl at_i (turnedOff_rebuildUplink s.connIo _ now c s.tracker).uplink
    intro remote pinned remote' pinned'
    have before : ∀ remote ∈ pinnedRemotes { s with
        conns := s.conns.set i (rebuildUplink s.connIo (fun _ => opened) now c s.tracker).1
        tracker := (rebuildUplink s.connIo (fun _ => opened) now c s.tracker).2 },
        remote ∈ s.pinnedRemotes := by
      intro remote pinned
      obtain ⟨c', member, entry⟩ := mem_pinnedRemotes.mp pinned
      obtain ⟨c₀, member₀, same⟩ := ids.exists_mem member
      exact mem_pinnedRemotes.mpr ⟨c₀, member₀, same.connId ▸ entry⟩
    exact one remote (before remote pinned) remote' (before remote' pinned')

/-- A re-home moves nothing or everything. -/
theorem AtOneReceiver.rehome (one : s.AtOneReceiver) (env : RehomeEnv) (now : Nat) :
    (s.tryRehome env now).1.AtOneReceiver := by
  rcases s.tryRehome_outcome env now with ⟨gate, h⟩ | ⟨newRemote, others, gate, -, -, moved, h⟩
  · rw [h]
    exact one
  · rw [h]
    have arrived := (rehomed_rehomeBond moved env now).arrived
    intro remote pinned remote' pinned'
    obtain ⟨c, member, entry⟩ := mem_pinnedRemotes.mp pinned
    obtain ⟨c', member', entry'⟩ := mem_pinnedRemotes.mp pinned'
    exact Option.some.inj ((arrived c member remote entry).symm.trans (arrived c' member' remote' entry'))

end Step

end Sender

/-- The bond stays at one receiver in every run whose reloads resolve to where it is. -/
theorem bond_at_one_receiver (ext : Externals) (start : Sender) (ops : List RemoteOp)
    (one : start.AtOneReceiver)
    (joins : EachStep (Sender.remoteStep ext) (fun s op => s.joinsBond ext op = true) start ops) :
    ∀ before after, ops = before ++ after →
      (run (Sender.remoteStep ext) start before).AtOneReceiver := by
  rintro before after rfl
  refine EachStep.invariant Sender.AtOneReceiver ?_ one ((eachStep_append _ _ _ _ _).mp joins).1
  intro s op one joins
  cases op with
  | reload env => exact one.reload joins
  | reconnect i opened now => exact one.reconnect i opened now
  | rehome env now => exact one.rehome env now

namespace Sample

/-- A reload whose dials resolve to `remote`. -/
def reloadAt (remote : SocketAddr) (connIds : List Nat) : RemoteOp :=
  .reload
    { newIps := connIds.map .v4, newWeights := [], receiverHost := "receiver", receiverPort := 5000,
      dial := fun
        | .v4 bits => some ⟨bits, remote, 900⟩
        | .v6 _ => none }

end Sample

/-- A reload joins the bond, the bond moves, and a second reload follows it. -/
theorem bond_at_one_receiver_moves :
    let start := { Sample.sender [1] with rehome := { enabled := true } }
    let ops := [Sample.reloadAt Sample.receiver [1, 2], .reconnect 1 false 60000,
      RemoteOp.rehome Sample.movedAway 70000, Sample.reloadAt Sample.elsewhere [1, 2, 3]]
    (run (Sender.remoteStep Sample.externals) start ops).pinnedRemotes = [Sample.elsewhere] ∧
      (run (Sender.remoteStep Sample.externals) start ops).AtOneReceiver := by
  intro start ops
  exact ⟨by decide +kernel, bond_at_one_receiver Sample.externals start ops (by decide +kernel)
    (by decide +kernel) ops [] (List.append_nil ops).symm⟩

/-- A reload that finds the receiver's name at another address splits the bond. -/
theorem reload_splits_bond :
    (Sample.sender [1]).AtOneReceiver ∧
      ¬ (run (Sender.remoteStep Sample.externals) (Sample.sender [1])
        [Sample.reloadAt Sample.elsewhere [1, 2]]).AtOneReceiver := by
  decide +kernel

end SrtlaSend
