import SrtlaSend.Properties.Reload
import SrtlaSend.Sender.RunLoop

/-!
# The loop refines the handlers

Every branch of the loop is a run of handlers on the sender's state, so that whatever holds
over all runs of handlers holds over all runs of the loop. Between the reader tasks and the
handlers the queue loses nothing, adds nothing and keeps the order. A list of uplinks that a
hangup has read is applied by the next tick, unless a later hangup has read another one.
-/

namespace SrtlaSend

open Runs

namespace Sender

/-- The pass of housekeeping does to the sender what it does without the tasks. -/
theorem housekeepWithTasks_fst (s : Sender) (t : UplinkTasks) (env : HousekeepingEnv) :
    (s.housekeepWithTasks t env).1 = (s.handleHousekeeping env).1 := by
  have loop (is : List Nat) (s : Sender) (t : UplinkTasks) :
      (is.foldl (fun acc i => (housekeepUplink env acc.1 i, acc.2.tendUplink env acc.1 i)) (s, t)).1 =
        is.foldl (housekeepUplink env) s := by
    induction is generalizing s t with
    | nil => rfl
    | cons i is ih => exact ih _ _
  simp only [housekeepWithTasks, handleHousekeeping]
  rw [loop]

end Sender

namespace SenderLoop

/-! ### The handlers that a branch runs -/

/-- The handlers run by a drain, the first packet read with `env i`. -/
def drainEvents (env : Nat → UplinkEnv) : Nat → List UplinkPacket → List Event
  | _, [] => []
  | i, packet :: rx => .uplink packet.connId packet.bytes (env i) :: drainEvents env (i + 1) rx

/-- The verdicts that a tick stamps on the links. -/
def verdicts (setup : LoopSetup) (l : SenderLoop) (io : TickIo) : Nat → LinkVerdict :=
  let s := (l.sender.handleHousekeeping (io.env)).1
  linkVerdict (l.weakLinkFilter.classify s.conns s.negotiatedLatencyMs).2
    (l.linkCcController.tickAll setup.exp s.conns io.ccNow).2

/-- The reload that a tick applies. -/
def pendingReload (l : SenderLoop) (dial : IpAddr → Option Dialed) : Option ReloadEnv :=
  l.pendingChanges.bind fun changes => changes.newIps.map fun newIps =>
    { newIps
      newWeights := changes.newWeights
      receiverHost := changes.receiverHost
      receiverPort := changes.receiverPort
      dial }

/-- The handlers that a tick runs before it drains the queue. -/
def tickEvents (setup : LoopSetup) (l : SenderLoop) (io : TickIo) : List Event :=
  .housekeeping io.env :: .classify (l.verdicts setup io) ::
    ((l.pendingReload io.dial).map Event.reload).toList

/-- The handlers that a branch runs, in order. -/
def handled (setup : LoopSetup) (l : SenderLoop) : LoopEvent → List Event
  | .queued _ => []
  | .readerEnded _ => []
  | .client received sends config criticalWindow now drain =>
    let snap := config.snapshot l.sender.negotiatedLatencyMs
    (received.map fun r => Event.data r.1 r.2 sends snap criticalWindow now).toList ++
      drainEvents (fun i => (drain i).env snap.mode.isClassic) 0 (l.packetRx.take maxDrainPackets)
  | .uplink config drain =>
    drainEvents (fun i => (drain i).env config.schedulingMode.isClassic) 0
      (l.packetRx.take (maxDrainPackets + 1))
  | .tick io =>
    l.tickEvents setup io ++
      drainEvents (fun i => (io.drain i).env io.drainConfig.schedulingMode.isClassic) 0
        (l.packetRx.take maxDrainPackets)
  | .hangup _ config drain =>
    drainEvents (fun i => (drain i).env config.schedulingMode.isClassic) 0
      (l.packetRx.take maxDrainPackets)
  | .flush sends now => [.flush sends now]
  | .terminate => []

/-- What a step of the loop runs: nothing once the loop has returned. -/
def ran (setup : LoopSetup) (l : SenderLoop) (e : LoopEvent) : List Event :=
  if l.running then l.handled setup e else []

/-- The handlers that a run of the loop runs. -/
def ranBy (setup : LoopSetup) (l : SenderLoop) (es : List LoopEvent) : List Event :=
  (history (step setup) l es).flatMap fun x => x.1.ran setup x.2

/-- What a reader hands over. -/
def queuedPacket : LoopEvent → Option UplinkPacket
  | .queued packet => some packet
  | _ => none

/-- What the readers hand over while the loop is running. -/
def arrivals (setup : LoopSetup) (l : SenderLoop) (es : List LoopEvent) : List UplinkPacket :=
  (history (step setup) l es).flatMap fun x =>
    if x.1.running then (queuedPacket x.2).toList else []

/-- The packet that a handler is given. -/
def packetOf : Event → Option UplinkPacket
  | .uplink connId bytes _ => some ⟨connId, bytes⟩
  | _ => none

/-! ### One branch -/

section Branch

variable (setup : LoopSetup) (l : SenderLoop)

theorem filterMap_drainEvents (env : Nat → UplinkEnv) (i : Nat) (rx : List UplinkPacket) :
    (drainEvents env i rx).filterMap packetOf = rx := by
  induction rx generalizing i with
  | nil => rfl
  | cons packet rx ih =>
    rw [drainEvents, List.filterMap_cons_some (f := packetOf) (b := packet) rfl, ih]

/-- A drain with a shifted environment. -/
theorem drainEvents_shift (env : Nat → UplinkEnv) (i : Nat) (rx : List UplinkPacket) :
    drainEvents (fun j => env (j + 1)) i rx = drainEvents env (i + 1) rx := by
  induction rx generalizing i with
  | nil => rfl
  | cons packet rx ih => rw [drainEvents, drainEvents, ih]

/-- A drain handles the front of the queue and leaves the rest. -/
theorem drainFrom_eq (ext : Externals) (env : Nat → UplinkEnv) (left i : Nat) (s : Sender)
    (rx : List UplinkPacket) :
    drainFrom ext.hashOf env left i s rx =
      (run (Sender.step ext) s (drainEvents env i (rx.take left)), rx.drop left) := by
  induction left generalizing i s rx with
  | zero => rfl
  | succ left ih =>
    cases rx with
    | nil => rfl
    | cons packet rx =>
      rw [drainFrom, ih]
      rfl

theorem drainPacketQueue_eq (classic : Bool) (io : Nat → ReceiveIo) :
    l.drainPacketQueue setup classic io =
      { l with
        sender :=
          run (Sender.step setup.toExternals) l.sender
            (drainEvents (fun i => (io i).env classic) 0 (l.packetRx.take maxDrainPackets))
        packetRx := l.packetRx.drop maxDrainPackets } := by
  simp only [drainPacketQueue]
  rw [drainFrom_eq setup.toExternals]

theorem applyPending_eq (dial : IpAddr → Option Dialed) :
    (l.applyPending setup dial).sender =
        run (Sender.step setup.toExternals) l.sender ((l.pendingReload dial).map Event.reload).toList ∧
      (l.applyPending setup dial).packetRx = l.packetRx ∧
      (l.applyPending setup dial).pendingChanges = none ∧
      (l.applyPending setup dial).running = l.running := by
  rcases pending : l.pendingChanges with _ | ⟨_ | newIps, newWeights, host, port⟩
  all_goals
    simp only [applyPending, pendingReload, pending]
    exact ⟨rfl, trivial, trivial, trivial⟩

/-- The loop in a tick, before it drains the queue. -/
def ticked (io : TickIo) : SenderLoop :=
  ((l.housekeep io.env).judgeLinks setup io.ccNow).applyPending setup io.dial

/-- Judging the links touches neither the queue nor what is pending. -/
theorem judged_frame (io : TickIo) :
    ((l.housekeep io.env).judgeLinks setup io.ccNow).packetRx = l.packetRx ∧
      ((l.housekeep io.env).judgeLinks setup io.ccNow).pendingChanges = l.pendingChanges ∧
      ((l.housekeep io.env).judgeLinks setup io.ccNow).running = l.running := by
  simp only [judgeLinks, housekeep, and_self]

theorem judged_sender (io : TickIo) :
    ((l.housekeep io.env).judgeLinks setup io.ccNow).sender =
      run (Sender.step setup.toExternals) l.sender
        [.housekeeping io.env, .classify (l.verdicts setup io)] := by
  simp only [housekeep, judgeLinks, verdicts, run_cons, run_nil, Sender.step_housekeeping,
    Sender.housekeepWithTasks_fst]
  rfl

theorem ticked_eq (io : TickIo) :
    (l.ticked setup io).sender =
        run (Sender.step setup.toExternals) l.sender (l.tickEvents setup io) ∧
      (l.ticked setup io).packetRx = l.packetRx ∧
      (l.ticked setup io).pendingChanges = none ∧ (l.ticked setup io).running = l.running := by
  obtain ⟨sender, packetRx, pending, running⟩ :=
    applyPending_eq setup ((l.housekeep io.env).judgeLinks setup io.ccNow) io.dial
  obtain ⟨queue, changes, alive⟩ := judged_frame setup l io
  have reload : ((l.housekeep io.env).judgeLinks setup io.ccNow).pendingReload io.dial =
      l.pendingReload io.dial := by
    rw [pendingReload, changes, pendingReload]
  rw [judged_sender, reload, ← run_append] at sender
  rw [queue] at packetRx
  rw [alive] at running
  exact ⟨sender, packetRx, pending, running⟩

theorem filterMap_tickEvents (io : TickIo) : (l.tickEvents setup io).filterMap packetOf = [] := by
  unfold tickEvents
  cases l.pendingReload io.dial with
  | none => rfl
  | some env => rfl

theorem receiveClient_eq (received : Option (Bytes × SocketAddr)) (sends : Sends)
    (snap : ConfigSnapshot) (criticalWindow : CriticalWindow) (now : Nat) :
    (l.receiveClient setup received sends snap criticalWindow now).sender =
        run (Sender.step setup.toExternals) l.sender
          (received.map fun r => Event.data r.1 r.2 sends snap criticalWindow now).toList ∧
      (l.receiveClient setup received sends snap criticalWindow now).packetRx = l.packetRx ∧
      (received.map fun r => Event.data r.1 r.2 sends snap criticalWindow now).toList.filterMap packetOf =
        [] := by
  cases received with
  | none => exact ⟨rfl, rfl, rfl⟩
  | some r => exact ⟨rfl, rfl, rfl⟩

theorem queueReload_frame (file : Option (List Char)) :
    (l.queueReload setup file).sender = l.sender ∧
      (l.queueReload setup file).packetRx = l.packetRx ∧
      (l.queueReload setup file).running = l.running := by
  unfold queueReload
  split
  · exact ⟨rfl, rfl, rfl⟩
  · exact ⟨rfl, rfl, rfl⟩

/-- What a branch does to the sender's state and to the queue. -/
theorem branch_eq (e : LoopEvent) :
    (l.branch setup e).sender =
        run (Sender.step setup.toExternals) l.sender (l.handled setup e) ∧
      l.packetRx ++ (queuedPacket e).toList =
        (l.handled setup e).filterMap packetOf ++ (l.branch setup e).packetRx := by
  cases e with
  | queued packet => exact ⟨rfl, rfl⟩
  | readerEnded connId => exact ⟨rfl, List.append_nil _⟩
  | terminate => exact ⟨rfl, List.append_nil _⟩
  | flush sends now => exact ⟨rfl, List.append_nil _⟩
  | client received sends config criticalWindow now drain =>
    obtain ⟨sender, packetRx, quiet⟩ := receiveClient_eq setup l received sends
      (config.snapshot l.sender.negotiatedLatencyMs) criticalWindow now
    simp only [branch, handleClient, drainPacketQueue_eq, handled, sender, packetRx, run_append,
      List.filterMap_append, quiet, filterMap_drainEvents, queuedPacket, Option.toList_none,
      List.nil_append, List.append_nil, List.take_append_drop, and_self]
  | hangup file config drain =>
    obtain ⟨sender, packetRx, -⟩ := queueReload_frame setup l file
    simp only [branch, handleHangup, drainPacketQueue_eq, handled, sender, packetRx,
      filterMap_drainEvents, queuedPacket, Option.toList_none, List.append_nil,
      List.take_append_drop, and_self]
  -- the packet that woke the branch is handled as the head of the queue
  | uplink config drain =>
    simp only [branch, handleUplink, handled, filterMap_drainEvents, queuedPacket,
      Option.toList_none, List.append_nil]
    cases waiting : l.packetRx with
    | nil => exact ⟨rfl, waiting.symm⟩
    | cons packet rx =>
      simp only [drainPacketQueue_eq, List.take_succ_cons, drainEvents, run_cons,
        Sender.step_uplink]
      refine ⟨?_, ?_⟩
      · rw [← drainEvents_shift fun i => (drain i).env config.schedulingMode.isClassic]
      · rw [List.cons_append, List.take_append_drop]
  | tick io =>
    obtain ⟨sender, packetRx, -, -⟩ := ticked_eq setup l io
    simp only [ticked] at sender packetRx
    simp only [branch, handleTick, drainPacketQueue_eq, handled, syncReaders, sender, packetRx,
      run_append, List.filterMap_append, filterMap_tickEvents, filterMap_drainEvents, queuedPacket,
      Option.toList_none, List.nil_append, List.append_nil, List.take_append_drop, and_self]

/-- What a step does to the sender's state and to the queue. -/
theorem step_eq (e : LoopEvent) :
    (l.step setup e).sender = run (Sender.step setup.toExternals) l.sender (l.ran setup e) ∧
      l.packetRx ++ (if l.running then (queuedPacket e).toList else []) =
        (l.ran setup e).filterMap packetOf ++ (l.step setup e).packetRx := by
  cases alive : l.running with
  | true =>
    simp only [step, ran, alive, if_true]
    exact branch_eq setup l e
  | false =>
    simp only [step, ran, alive, Bool.false_eq_true, if_false]
    exact ⟨rfl, List.append_nil _⟩

end Branch

/-! ### Whole runs -/

section Runs

variable (setup : LoopSetup) (l : SenderLoop)

theorem ranBy_cons (e : LoopEvent) (es : List LoopEvent) :
    l.ranBy setup (e :: es) = l.ran setup e ++ (l.step setup e).ranBy setup es := rfl

theorem ranBy_append (es fs : List LoopEvent) :
    l.ranBy setup (es ++ fs) = l.ranBy setup es ++ (run (step setup) l es).ranBy setup fs := by
  induction es generalizing l with
  | nil => rfl
  | cons e es ih => rw [List.cons_append, ranBy_cons, ih, ranBy_cons, List.append_assoc, run_cons]

theorem arrivals_cons (e : LoopEvent) (es : List LoopEvent) :
    l.arrivals setup (e :: es) =
      (if l.running then (queuedPacket e).toList else []) ++ (l.step setup e).arrivals setup es := rfl

/-- A run of the loop is a run of handlers, and its packets are the arrivals in order. -/
theorem run_eq (es : List LoopEvent) :
    (run (step setup) l es).sender =
        run (Sender.step setup.toExternals) l.sender (l.ranBy setup es) ∧
      l.packetRx ++ l.arrivals setup es =
        (l.ranBy setup es).filterMap packetOf ++ (run (step setup) l es).packetRx := by
  induction es generalizing l with
  | nil => exact ⟨rfl, List.append_nil _⟩
  | cons e es ih =>
    obtain ⟨first, queue⟩ := step_eq setup l e
    obtain ⟨rest, later⟩ := ih (l.step setup e)
    refine ⟨?_, ?_⟩
    · rw [run_cons, rest, first, ranBy_cons, run_append]
    · calc l.packetRx ++ l.arrivals setup (e :: es)
          = (l.packetRx ++ if l.running then (queuedPacket e).toList else []) ++
              (l.step setup e).arrivals setup es := by
            rw [arrivals_cons, List.append_assoc]
        _ = (l.ran setup e).filterMap packetOf ++
              ((l.step setup e).packetRx ++ (l.step setup e).arrivals setup es) := by
            rw [queue, List.append_assoc]
        _ = (l.ranBy setup (e :: es)).filterMap packetOf ++
              (run (step setup) l (e :: es)).packetRx := by
            rw [later, ← List.append_assoc, ranBy_cons, List.filterMap_append, run_cons]

/-- The datagram of the client that a handler is given. -/
def datagramOf : Event → Option (Bytes × SocketAddr)
  | .data pkt src _ _ _ _ => some (pkt, src)
  | _ => none

/-- What the local socket receives. -/
def receivedDatagram : LoopEvent → Option (Bytes × SocketAddr)
  | .client received _ _ _ _ _ => received
  | _ => none

/-- What the local socket receives while the loop is running. -/
def received (es : List LoopEvent) : List (Bytes × SocketAddr) :=
  (history (step setup) l es).flatMap fun x =>
    if x.1.running then (receivedDatagram x.2).toList else []

theorem filterMap_datagramOf_drainEvents (env : Nat → UplinkEnv) (i : Nat) (rx : List UplinkPacket) :
    (drainEvents env i rx).filterMap datagramOf = [] := by
  induction rx generalizing i with
  | nil => rfl
  | cons packet rx ih => exact ih _

theorem filterMap_datagramOf_handled (e : LoopEvent) :
    (l.handled setup e).filterMap datagramOf = (receivedDatagram e).toList := by
  cases e with
  | client received sends config criticalWindow now drain =>
    simp only [handled, List.filterMap_append, filterMap_datagramOf_drainEvents, List.append_nil]
    cases received with
    | none => rfl
    | some r => rfl
  | tick io =>
    simp only [handled, List.filterMap_append, filterMap_datagramOf_drainEvents, List.append_nil,
      tickEvents]
    cases l.pendingReload io.dial with
    | none => rfl
    | some env => rfl
  | uplink config drain => exact filterMap_datagramOf_drainEvents _ _ _
  | hangup file config drain => exact filterMap_datagramOf_drainEvents _ _ _
  | _ => rfl

theorem filterMap_datagramOf_ranBy (es : List LoopEvent) :
    (l.ranBy setup es).filterMap datagramOf = l.received setup es := by
  simp only [ranBy, received, List.filterMap_flatMap]
  congr 1
  funext x
  simp only [ran]
  split
  · exact filterMap_datagramOf_handled setup x.1 x.2
  · rfl

/-! ### The wait in the queue -/

/-- The branch drains the queue. -/
def drains : LoopEvent → Bool
  | .client _ _ _ _ _ _ => true
  | .uplink _ _ => true
  | .tick _ => true
  | .hangup _ _ _ => true
  | _ => false

/-- A branch that drains handles a full load, or all there is. -/
theorem min_le_length_handled {e : LoopEvent} (draining : drains e = true) :
    min maxDrainPackets l.packetRx.length ≤ ((l.handled setup e).filterMap packetOf).length := by
  cases e with
  | client received sends config criticalWindow now drain =>
    obtain ⟨-, -, quiet⟩ := receiveClient_eq setup l received sends
      (config.snapshot l.sender.negotiatedLatencyMs) criticalWindow now
    simp only [handled, List.filterMap_append, quiet, filterMap_drainEvents, List.nil_append,
      List.length_take, le_refl]
  | tick io =>
    simp only [handled, List.filterMap_append, filterMap_tickEvents, filterMap_drainEvents,
      List.nil_append, List.length_take, le_refl]
  | uplink config drain =>
    simp only [handled, filterMap_drainEvents, List.length_take]
    omega
  | hangup file config drain =>
    simp only [handled, filterMap_drainEvents, List.length_take, le_refl]
  | _ => cases draining

end Runs

/-! ### The reload that is pending -/

/-- The list of uplinks that a file holds. -/
def usableList (setup : LoopSetup) (file : Option (List Char)) : Option (List IpAddr × List Nat) :=
  match analyzeIpReload setup.parseIp file with
  | some (.apply ips weights _) => some (ips, weights)
  | _ => none

/-- The list that a hangup reads. -/
def hangupList (setup : LoopSetup) : LoopEvent → Option (List IpAddr × List Nat)
  | .hangup file _ _ => usableList setup file
  | _ => none

def isTick : LoopEvent → Bool
  | .tick _ => true
  | _ => false

/-- The changes that a hangup leaves for the next tick. -/
def changesFor (setup : LoopSetup) (list : List IpAddr × List Nat) : PendingConnectionChanges :=
  { newIps := some list.1
    newWeights := list.2
    receiverHost := setup.receiverHost
    receiverPort := setup.receiverPort }

/-- The list is the last one that a hangup has read since the last tick. -/
def ReadSinceTick (setup : LoopSetup) (es : List LoopEvent) (list : List IpAddr × List Nat) : Prop :=
  Since (fun e => hangupList setup e = some list)
    (fun e => isTick e = true ∨ (hangupList setup e).isSome = true) es

section Pending

variable {setup : LoopSetup} {l : SenderLoop}

theorem queueReload_pending (file : Option (List Char)) :
    (l.queueReload setup file).pendingChanges =
      ((usableList setup file).map (changesFor setup)).or l.pendingChanges := by
  unfold queueReload usableList
  rcases analyzeIpReload setup.parseIp file with _ | ⟨ips, weights, line⟩ | reason
  · rfl
  · rfl
  · rfl

/-- A tick takes what is pending, a hangup may replace it, and nothing else touches it. -/
theorem branch_pending (e : LoopEvent) :
    (l.branch setup e).pendingChanges =
      if isTick e then none else ((hangupList setup e).map (changesFor setup)).or l.pendingChanges := by
  cases e with
  | tick io =>
    obtain ⟨-, -, pending, -⟩ := ticked_eq setup l io
    simp only [ticked] at pending
    simp only [branch, handleTick, drainPacketQueue_eq, syncReaders, pending, isTick, if_true]
  | hangup file config drain =>
    simp only [branch, handleHangup, drainPacketQueue_eq, queueReload_pending, isTick, hangupList,
      Bool.false_eq_true, if_false]
  | client received sends config criticalWindow now drain =>
    simp only [branch, handleClient, drainPacketQueue_eq]
    cases received with
    | none => rfl
    | some r => rfl
  | uplink config drain =>
    simp only [branch, handleUplink]
    split
    · rfl
    · simp only [drainPacketQueue_eq]
      rfl
  | _ => rfl

theorem running_of_step {e : LoopEvent} (alive : (l.step setup e).running = true) :
    l.running = true := by
  by_contra stopped
  rw [step, if_neg stopped] at alive
  exact stopped alive

/-- While the loop runs, what is pending is the last list read since the last tick. -/
theorem pending_eq_some_iff (idle : l.pendingChanges = none) (es : List LoopEvent)
    (alive : (run (step setup) l es).running = true) (changes : PendingConnectionChanges) :
    (run (step setup) l es).pendingChanges = some changes ↔
      ∃ list, changes = changesFor setup list ∧ ReadSinceTick setup es list := by
  induction es using List.reverseRecOn generalizing changes with
  | nil =>
    rw [run_nil, idle]
    constructor
    · intro equal
      cases equal
    · rintro ⟨list, -, since⟩
      exact absurd since (not_since_nil _ _)
  | append_singleton es e ih =>
    rw [run_append, run_cons, run_nil] at alive ⊢
    have before := running_of_step alive
    rw [step, if_pos before, branch_pending]
    simp only [ReadSinceTick, since_concat]
    cases tick : isTick e with
    | true =>
      -- a tick reads no list
      have quiet : hangupList setup e = none := by
        cases e with
        | tick io => rfl
        | _ => cases tick
      simp [quiet]
    | false =>
      cases hung : hangupList setup e with
      | none => simpa [ReadSinceTick] using ih before changes
      | some list =>
        simp only [Bool.false_eq_true, if_false, Option.map_some, Option.some_or, Option.some.injEq,
          Option.isSome_some, or_true, not_true_eq_false, and_false, or_false]
        constructor
        · rintro rfl
          exact ⟨list, rfl, rfl⟩
        · rintro ⟨list', rfl, same⟩
          rw [same]

/-- The handlers of a drain are all handlers of packets. -/
theorem mem_drainEvents {env : Nat → UplinkEnv} {i : Nat} {rx : List UplinkPacket} {e : Event}
    (member : e ∈ drainEvents env i rx) : ∃ connId bytes receive, e = .uplink connId bytes receive := by
  induction rx generalizing i with
  | nil => cases member
  | cons packet rx ih =>
    rcases List.mem_cons.mp member with rfl | later
    · exact ⟨_, _, _, rfl⟩
    · exact ih later

theorem reload_not_mem_drainEvents (env : Nat → UplinkEnv) (i : Nat) (rx : List UplinkPacket)
    (reload : ReloadEnv) : Event.reload reload ∉ drainEvents env i rx := by
  intro member
  obtain ⟨connId, bytes, receive, equal⟩ := mem_drainEvents member
  cases equal

/-- A reload is run by a tick that finds one pending, and by nothing else. -/
theorem reload_mem_ran_iff (e : LoopEvent) (env : ReloadEnv) :
    Event.reload env ∈ l.ran setup e ↔
      l.running = true ∧ ∃ io, e = .tick io ∧ l.pendingReload io.dial = some env := by
  cases alive : l.running with
  | false => simp [ran, alive]
  | true =>
    cases e with
    | tick io =>
      simp [ran, alive, handled, tickEvents, reload_not_mem_drainEvents]
    | client received sends config criticalWindow now drain =>
      cases received with
      | none => simp [ran, alive, handled, reload_not_mem_drainEvents]
      | some r => simp [ran, alive, handled, reload_not_mem_drainEvents]
    | _ => simp [ran, alive, handled, reload_not_mem_drainEvents]

theorem pendingReload_eq_some_iff (dial : IpAddr → Option Dialed) (env : ReloadEnv) :
    l.pendingReload dial = some env ↔
      ∃ changes newIps, l.pendingChanges = some changes ∧ changes.newIps = some newIps ∧
        env =
          { newIps
            newWeights := changes.newWeights
            receiverHost := changes.receiverHost
            receiverPort := changes.receiverPort
            dial } := by
  simp only [pendingReload, Option.bind_eq_some_iff, Option.map_eq_some_iff]
  constructor
  · rintro ⟨changes, pending, newIps, listed, rfl⟩
    exact ⟨changes, newIps, pending, listed, rfl⟩
  · rintro ⟨changes, newIps, pending, listed, rfl⟩
    exact ⟨changes, pending, newIps, listed, rfl⟩

/-- The reload of a list. -/
def reloadFor (setup : LoopSetup) (list : List IpAddr × List Nat) (dial : IpAddr → Option Dialed) :
    ReloadEnv :=
  { newIps := list.1
    newWeights := list.2
    receiverHost := setup.receiverHost
    receiverPort := setup.receiverPort
    dial }

/-- A tick applies the last list that a hangup has read since the tick before it, once, and no
other branch applies any. -/
theorem reload_iff_read_since_tick (idle : l.pendingChanges = none) (es : List LoopEvent)
    (alive : (run (step setup) l es).running = true) (e : LoopEvent) (env : ReloadEnv) :
    Event.reload env ∈ (run (step setup) l es).ran setup e ↔
      ∃ io list, e = .tick io ∧ ReadSinceTick setup es list ∧ env = reloadFor setup list io.dial := by
  rw [reload_mem_ran_iff]
  simp only [alive, true_and, pendingReload_eq_some_iff, pending_eq_some_iff idle es alive]
  constructor
  · rintro ⟨io, rfl, changes, newIps, ⟨list, rfl, since⟩, listed, rfl⟩
    obtain rfl := Option.some.inj listed
    exact ⟨io, list, rfl, since, rfl⟩
  · rintro ⟨io, list, rfl, since, rfl⟩
    exact ⟨io, rfl, _, _, ⟨list, rfl, since⟩, rfl, rfl⟩

/-! ### The list in force -/

/-- The list is the last one that a hangup has read. -/
def LastRead (setup : LoopSetup) (es : List LoopEvent) (list : List IpAddr × List Nat) : Prop :=
  Since (fun e => hangupList setup e = some list) (fun e => (hangupList setup e).isSome = true) es

theorem ReadSinceTick.lastRead {es : List LoopEvent} {list : List IpAddr × List Nat}
    (read : ReadSinceTick setup es list) : LastRead setup es list :=
  read.of_disarm fun _ later => Or.inr later

theorem listInForce_append (list : List IpAddr × List Nat) (es fs : List Event) :
    listInForce list (es ++ fs) = listInForce (listInForce list es) fs := List.foldl_append

theorem listInForce_of_no_reload (list : List IpAddr × List Nat) {es : List Event}
    (quiet : ∀ env, Event.reload env ∉ es) : listInForce list es = list := by
  induction es generalizing list with
  | nil => rfl
  | cons e es ih =>
    have rest := ih list fun env member => quiet env (List.mem_cons_of_mem e member)
    cases e with
    | reload env => exact absurd List.mem_cons_self (quiet env)
    | _ => exact rest

theorem listInForce_tick (list : List IpAddr × List Nat) (io : TickIo) :
    listInForce list (l.handled setup (.tick io)) =
      ((l.pendingReload io.dial).map fun env => (env.newIps, env.newWeights)).getD list := by
  rw [handled, listInForce_append,
    listInForce_of_no_reload _ (reload_not_mem_drainEvents _ _ _)]
  unfold tickEvents
  cases l.pendingReload io.dial with
  | none => rfl
  | some env => rfl

/-- The list read last is pending, or it is in force and nothing is pending. -/
theorem applied_or_pending (idle : l.pendingChanges = none) (initial : List IpAddr × List Nat)
    (es : List LoopEvent) (alive : (run (step setup) l es).running = true) :
    (∀ list, LastRead setup es list →
      ReadSinceTick setup es list ∨
        (listInForce initial (l.ranBy setup es) = list ∧
          (run (step setup) l es).pendingChanges = none)) ∧
    ((∀ list, ¬ LastRead setup es list) → listInForce initial (l.ranBy setup es) = initial) := by
  induction es using List.reverseRecOn with
  | nil => exact ⟨fun list read => absurd read (not_since_nil _ _), fun _ => rfl⟩
  | append_singleton es e ih =>
    rw [run_append, run_cons, run_nil] at alive ⊢
    have before := running_of_step alive
    obtain ⟨settled, none_read⟩ := ih before
    have pending := pending_eq_some_iff idle es before
    have handlers : l.ranBy setup (es ++ [e]) =
        l.ranBy setup es ++ (run (step setup) l es).handled setup e := by
      rw [ranBy_append, ranBy_cons, ran, if_pos before]
      exact congrArg _ (List.append_nil _)
    rw [handlers, listInForce_append, step, if_pos before, branch_pending]
    simp only [LastRead, ReadSinceTick, since_concat] at settled none_read ⊢
    cases tick : isTick e with
    | true =>
      -- a tick reads no list, and leaves none pending
      obtain ⟨io, rfl⟩ : ∃ io, e = .tick io := by
        cases e with
        | tick io => exact ⟨io, rfl⟩
        | _ => cases tick
      rw [listInForce_tick]
      simp only [hangupList, reduceCtorEq, Option.isSome_none, Bool.false_eq_true, not_false_eq_true,
        and_true, false_or, or_false, not_true_eq_false, and_false, if_true]
      constructor
      · intro list read
        rcases settled list read with since | ⟨applied, empty⟩
        · have found := (pending (changesFor setup list)).mpr ⟨list, rfl, since⟩
          simp only [pendingReload, found]
          rfl
        · simp only [pendingReload, empty]
          exact applied
      · intro unread
        have empty : (run (step setup) l es).pendingChanges = none := by
          by_contra found
          obtain ⟨changes, found⟩ := Option.ne_none_iff_exists'.mp found
          obtain ⟨list, -, since⟩ := (pending changes).mp found
          exact unread list (ReadSinceTick.lastRead since)
        simp only [pendingReload, empty]
        exact none_read unread
    | false =>
      have quiet : ∀ env, Event.reload env ∉ (run (step setup) l es).handled setup e := by
        intro env member
        have ranNow : Event.reload env ∈ (run (step setup) l es).ran setup e := by
          rw [ran, if_pos before]
          exact member
        obtain ⟨-, io, rfl, -⟩ := (reload_mem_ran_iff e env).mp ranNow
        cases tick
      rw [listInForce_of_no_reload _ quiet]
      cases hung : hangupList setup e with
      | none => simpa [tick, hung] using And.intro settled none_read
      | some list =>
        simp only [Option.some.injEq, Option.isSome_some, not_true_eq_false, and_false, or_false,
          or_true, forall_eq']
        exact ⟨Or.inl trivial, fun unread => unread.elim⟩

theorem running_of_run (es : List LoopEvent) {fs : List LoopEvent}
    (alive : (run (step setup) l (es ++ fs)).running = true) :
    (run (step setup) l es).running = true := by
  induction fs using List.reverseRecOn with
  | nil => rwa [List.append_nil] at alive
  | append_singleton fs e ih =>
    rw [← List.append_assoc, run_append, run_cons, run_nil] at alive
    exact ih (running_of_step alive)

/-- Without a tick no list comes into force. -/
theorem listInForce_without_tick (list : List IpAddr × List Nat) {es : List LoopEvent}
    (quiet : ∀ e ∈ es, isTick e = false) : listInForce list (l.ranBy setup es) = list := by
  refine listInForce_of_no_reload _ fun env member => ?_
  obtain ⟨x, visited, ran⟩ := List.mem_flatMap.mp member
  obtain ⟨-, io, equal, -⟩ := (reload_mem_ran_iff x.2 env).mp ran
  have none := quiet x.2 (mem_of_mem_history visited)
  rw [equal] at none
  cases none

/-- The list in force is the last one read before the last tick, or the initial one. -/
theorem listInForce_ranBy (idle : l.pendingChanges = none) (initial : List IpAddr × List Nat)
    {before after : List LoopEvent} (alive : (run (step setup) l (before ++ after)).running = true)
    (ended : before = [] ∨ ∃ earlier io, before = earlier ++ [.tick io])
    (quiet : ∀ e ∈ after, isTick e = false) :
    (∀ list, LastRead setup before list →
      listInForce initial (l.ranBy setup (before ++ after)) = list) ∧
    ((∀ list, ¬ LastRead setup before list) →
      listInForce initial (l.ranBy setup (before ++ after)) = initial) := by
  obtain ⟨settled, unread⟩ := applied_or_pending idle initial before (running_of_run _ alive)
  rw [ranBy_append, listInForce_append, listInForce_without_tick _ quiet]
  refine ⟨fun list read => ?_, unread⟩
  rcases settled list read with since | ⟨applied, -⟩
  · -- nothing has been read since a tick that came last
    rcases ended with rfl | ⟨earlier, io, rfl⟩
    · exact absurd since (not_since_nil _ _)
    · rw [ReadSinceTick, since_concat] at since
      rcases since with now | ⟨-, later⟩
      · cases now
      · exact absurd (Or.inl rfl) later
  · exact applied

end Pending

/-! ### The loop from startup -/

section Startup

variable {setup : LoopSetup} {file : Option (List Char)} {dial : Nat → IpAddr → Option Dialed}
  {id probeId : SrtlaId} {config : DynamicConfig} {now : Nat} {pass : HousekeepingEnv}
  {l : SenderLoop}

theorem startup_eq (started : startup setup file dial id probeId config now pass = some l) :
    ∃ list start,
      usableList setup file = some list ∧
      Sender.startup setup.toExternals setup.receiverHost setup.receiverPort dial list.1 list.2 id
          probeId config.rehomeOnFailure now = some start ∧
      l = enter start pass config := by
  unfold startup at started
  split at started
  · rename_i ips weights line read
    obtain ⟨start, begun, rfl⟩ := Option.map_eq_some_iff.mp started
    refine ⟨(ips, weights), start, ?_, begun, rfl⟩
    rw [usableList, read]
  · cases started

/-- The loop is entered after one pass of housekeeping, with nothing pending. -/
theorem enter_eq (start : Sender) (pass : HousekeepingEnv) (config : DynamicConfig) :
    (enter start pass config).sender =
        (start.handleHousekeeping { pass with classic := config.schedulingMode.isClassic }).1 ∧
      (enter start pass config).packetRx = [] ∧ (enter start pass config).pendingChanges = none ∧
      (enter start pass config).running = true := by
  simp only [enter, housekeep, syncReaders, Sender.housekeepWithTasks_fst, and_self]

end Startup

/-! ### Results -/

/-- Every run of the loop is a run of the handlers. Each datagram of the client is handled
once, in order; what the readers queue is handled once, in order, or still waits. -/
theorem loop_refines_handlers (setup : LoopSetup) (l : SenderLoop) (es : List LoopEvent) :
    (run (step setup) l es).sender =
        run (Sender.step setup.toExternals) l.sender (l.ranBy setup es) ∧
      (l.ranBy setup es).filterMap datagramOf = l.received setup es ∧
      l.packetRx ++ l.arrivals setup es =
        (l.ranBy setup es).filterMap packetOf ++ (run (step setup) l es).packetRx := by
  obtain ⟨sender, queue⟩ := run_eq setup l es
  exact ⟨sender, filterMap_datagramOf_ranBy setup l es, queue⟩

/-- A packet that waits behind `k` others has been handled once `k / 64 + 1` branches that
drain the queue have been taken. -/
theorem backlog_is_handled (setup : LoopSetup) (l : SenderLoop) (es : List LoopEvent)
    (alive : (run (step setup) l es).running = true) :
    l.packetRx.take (maxDrainPackets * es.countP drains) <+:
      (l.ranBy setup es).filterMap packetOf := by
  induction es generalizing l with
  | nil => simp
  | cons e es ih =>
    have running : l.running = true := running_of_step (running_of_run [e] alive)
    obtain ⟨-, queue⟩ := step_eq setup l e
    rw [if_pos running] at queue
    have handled : min maxDrainPackets l.packetRx.length * (if drains e then 1 else 0) ≤
        ((l.ran setup e).filterMap packetOf).length := by
      rw [ran, if_pos running]
      cases draining : drains e with
      | true => simpa using min_le_length_handled setup l draining
      | false => simp
    -- both what is to be handled and what has been are beginnings of the same queue
    have waiting : l.packetRx.take (maxDrainPackets * (e :: es).countP drains) <+:
        (l.ran setup e).filterMap packetOf ++ (l.step setup e).packetRx := by
      rw [← queue]
      exact (List.take_prefix _ _).trans (List.prefix_append _ _)
    have done : (l.ran setup e).filterMap packetOf ++
        (l.step setup e).packetRx.take (maxDrainPackets * es.countP drains) <+:
        (l.ran setup e).filterMap packetOf ++ (l.step setup e).packetRx :=
      (List.prefix_append_right_inj _).mpr (List.take_prefix _ _)
    have total := congrArg List.length queue
    rw [List.length_append, List.length_append] at total
    have enough : (l.packetRx.take (maxDrainPackets * (e :: es).countP drains)).length ≤
        ((l.ran setup e).filterMap packetOf ++
          (l.step setup e).packetRx.take (maxDrainPackets * es.countP drains)).length := by
      simp only [List.length_take, List.length_append, List.countP_cons, maxDrainPackets] at handled ⊢
      split at handled
      · simp only [*, if_true]
        omega
      · simp only [*, Bool.false_eq_true, if_false]
        omega
    rw [ranBy_cons, List.filterMap_append]
    exact (List.prefix_of_prefix_length_le waiting done enough).trans
      ((List.prefix_append_right_inj _).mpr (ih (l.step setup e) alive))

end SenderLoop

namespace Sample

/-- Two addresses in their usual form. -/
def parseIp (text : List Char) : Option IpAddr :=
  if text = ['1', '0', '.', '0', '.', '0', '.', '1'] then some (.v4 0x0a000001)
  else if text = ['1', '0', '.', '0', '.', '0', '.', '2'] then some (.v4 0x0a000002)
  else none

def setup : LoopSetup :=
  { externals with showIp, exp := fun _ => 1, parseIp, receiverHost := "receiver", receiverPort := 5000 }

def oneUplink : List Char := ['1', '0', '.', '0', '.', '0', '.', '1', '\n']

/-- The second uplink has a weight. -/
def twoUplinks : List Char := oneUplink ++ ['1', '0', '.', '0', '.', '0', '.', '2', ' ', '3', '\n']

def loop : Option SenderLoop :=
  SenderLoop.startup setup (some oneUplink) (fun i _ => some ⟨i + 1, receiver, 500⟩) (groupId 1)
    (groupId 2) .new 500 (pass 500 [])

def receiveIo (now : Nat) : ReceiveIo := ⟨now, now, sends now⟩

/-- A tick whose dials draw the address as id. -/
def tickIo (now : Nat) : TickIo :=
  { pass := pass now []
    config := .new
    ccNow := now
    dial := fun
      | .v4 bits => some ⟨bits, receiver, now⟩
      | .v6 bits => some ⟨bits, receiver, now⟩
    drainConfig := .new
    drain := fun _ => receiveIo now }

def tick (now : Nat) : LoopEvent := .tick (tickIo now)

def hangup (file : List Char) (now : Nat) : LoopEvent := .hangup (some file) .new fun _ => receiveIo now

end Sample

namespace SenderLoop

/-- Two packets wait, and one branch is enough for both. -/
theorem backlog_is_handled_sample :
    [⟨1, Sample.regNgp⟩, ⟨1, Sample.reg3⟩] <+:
      (ranBy Sample.setup
        { sender := Sample.sender [1], tasks := {},
          packetRx := [⟨1, Sample.regNgp⟩, ⟨1, Sample.reg3⟩] }
        [.uplink .new fun _ => Sample.receiveIo 600]).filterMap packetOf :=
  backlog_is_handled Sample.setup
    { sender := Sample.sender [1], tasks := {}, packetRx := [⟨1, Sample.regNgp⟩, ⟨1, Sample.reg3⟩] }
    [.uplink .new fun _ => Sample.receiveIo 600] rfl

/-- The uplinks follow the file: after every run from startup there is one uplink for each
address of the list that was read last before the last tick, with its weight there; and as
long as no list has been read, one for each address of the list at startup. A list that was
read since waits for the next tick, which applies it, and no other branch applies any. This is
so if the list at startup names no address twice and the addresses can be dialed. -/
theorem uplinks_follow_file (setup : LoopSetup) (injective : Function.Injective setup.showIp)
    (file : Option (List Char)) (dial : Nat → IpAddr → Option Dialed) (id probeId : SrtlaId)
    (config : DynamicConfig) (now : Nat) (pass : HousekeepingEnv) (l : SenderLoop)
    (initial : List IpAddr × List Nat)
    (started : startup setup file dial id probeId config now pass = some l)
    (listed : usableList setup file = some initial)
    (opens : ∀ entry ∈ initial.1.zipIdx, (dial entry.2 entry.1).isSome = true)
    (draws : (initial.1.zipIdx.filterMap fun entry => (dial entry.2 entry.1).map (·.connId)).Nodup)
    (distinct : initial.1.Nodup) (before after : List LoopEvent)
    (ended : before = [] ∨ ∃ earlier io, before = earlier ++ [.tick io])
    (quiet : ∀ e ∈ after, isTick e = false)
    (alive : (run (step setup) l (before ++ after)).running = true)
    (steps : EachStep (Sender.step setup.toExternals)
      (Sender.appliesReload setup.receiverHost setup.receiverPort) l.sender
      (l.ranBy setup (before ++ after))) :
    (∀ list, LastRead setup before list →
      OnePerIp list.1 list.2 (run (step setup) l (before ++ after)).sender) ∧
    ((∀ list, ¬ LastRead setup before list) →
      OnePerIp initial.1 initial.2 (run (step setup) l (before ++ after)).sender) ∧
    (∀ e env, Event.reload env ∈ (run (step setup) l (before ++ after)).ran setup e ↔
      ∃ io list, e = .tick io ∧ ReadSinceTick setup (before ++ after) list ∧
        env = reloadFor setup list io.dial) := by
  obtain ⟨list, start, read, begun, rfl⟩ := startup_eq started
  obtain rfl := Option.some.inj (listed.symm.trans read)
  obtain ⟨entered, -, idle, -⟩ := enter_eq start pass config
  -- the pass before the loop keeps the uplinks
  have converged : Converged setup.toExternals setup.receiverHost setup.receiverPort initial.1
      initial.2 (enter start pass config).sender := by
    rw [entered, ← Sender.step_housekeeping setup.toExternals]
    exact (converged_startup begun opens draws distinct).of_keeps
      (Sender.keeps_step setup.toExternals start fun env => by simp)
  have reached := Converged.run injective converged steps
  rw [← (run_eq setup _ _).1] at reached
  obtain ⟨last, none⟩ := listInForce_ranBy idle initial alive ended quiet
  refine ⟨fun list read => ?_, fun unread => ?_, reload_iff_read_since_tick idle _ alive⟩
  · rw [last list read] at reached
    exact reached.toOnePerIp
  · rw [none unread] at reached
    exact reached.toOnePerIp

/-- A bond of one uplink; the file then lists a second one, and the tick adds it. -/
theorem uplinks_follow_file_sample :
    ∃ l, Sample.loop = some l ∧
      OnePerIp [.v4 0x0a000001, .v4 0x0a000002] [1, 3]
        (run (step Sample.setup) l [Sample.hangup Sample.twoUplinks 900, Sample.tick 1500]).sender := by
  obtain ⟨l, started⟩ := Option.isSome_iff_exists.mp
    (show Sample.loop.isSome = true by decide +kernel)
  have same : l = Sample.loop.get (by decide +kernel) := by simp only [started, Option.get_some]
  have steps : EachStep (Sender.step Sample.setup.toExternals)
      (Sender.appliesReload "receiver" 5000) l.sender
      (l.ranBy Sample.setup [Sample.hangup Sample.twoUplinks 900, Sample.tick 1500]) := by
    rw [same]
    decide +kernel
  have alive : (run (step Sample.setup) l
      [Sample.hangup Sample.twoUplinks 900, Sample.tick 1500]).running = true := by
    rw [same]
    decide +kernel
  have read : LastRead Sample.setup [Sample.hangup Sample.twoUplinks 900, Sample.tick 1500]
      ([.v4 0x0a000001, .v4 0x0a000002], [1, 3]) := by
    unfold LastRead
    decide +kernel
  exact ⟨l, started, (uplinks_follow_file Sample.setup Sample.showIp_injective
    (some Sample.oneUplink) (fun i _ => some ⟨i + 1, Sample.receiver, 500⟩) (Sample.groupId 1)
    (Sample.groupId 2) .new 500 (Sample.pass 500 []) l ([.v4 0x0a000001], [1]) started
    (by decide +kernel) (by decide) (by decide) (by decide) _ [] (Or.inr ⟨[_], _, rfl⟩)
    (fun e member => absurd member List.not_mem_nil) alive steps).1 _ read⟩

end SenderLoop

end SrtlaSend
