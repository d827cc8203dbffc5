import SrtlaSend.Properties.OneReceiver
import SrtlaSend.Properties.RunLoop

/-!
# Sockets and their readers

Every uplink of the bond has one socket and one reader, and the reader reads the present
socket: a rebuild replaces both, a reload drops them with the uplink. The tables are keyed by
connection id, so that what the loop does to positions does not matter. A reader that ended
is replaced by the next tick that finds its link alive.
-/

namespace SrtlaSend

open Runs Pointwise SrtlaConnection

namespace UplinkTasks

/-! ### The tables -/

section Tables

variable (t : UplinkTasks)

theorem reopen_eq (connId : Nat) :
    t.reopen connId =
      { sockets := t.sockets.insert connId t.nextSocket
        nextSocket := t.nextSocket + 1
        readers := t.readers.insert connId { socket := t.nextSocket } } := by
  simp only [reopen, openSocket, restartReaderFor, AList.lookup_insert]

theorem lookup_spawnMissing (sockets : FiniteMap Nat Nat) (readers : FiniteMap Nat ReaderHandle)
    (connIds : List Nat) (id : Nat) :
    (connIds.foldl (spawnMissing sockets) readers).lookup id =
      if id ∈ connIds then
        (readers.lookup id).or ((sockets.lookup id).map fun socket => { socket })
      else readers.lookup id := by
  induction connIds generalizing readers with
  | nil => rfl
  | cons first rest ih =>
    -- one turn spawns for one id, unless it has a reader or no socket
    have step : (spawnMissing sockets readers first).lookup id =
        if id = first then (readers.lookup id).or ((sockets.lookup id).map fun socket => { socket })
        else readers.lookup id := by
      simp only [spawnMissing]
      by_cases here : id = first
      · subst here
        cases sockets.lookup id with
        | none => simp
        | some socket =>
          by_cases present : id ∈ readers
          · obtain ⟨reader, found⟩ := Option.isSome_iff_exists.mp (AList.lookup_isSome.mpr present)
            simp [present, found]
          · simp [present, AList.lookup_eq_none.mpr present]
      · cases sockets.lookup first with
        | none => simp [here]
        | some socket =>
          simp only [here, if_false]
          split
          · rfl
          · exact AList.lookup_insert_ne here
    rw [List.foldl_cons, ih, step]
    by_cases here : id = first
    · subst here
      cases readers.lookup id with
      | some reader => simp
      | none =>
        cases sockets.lookup id with
        | none => simp
        | some socket => simp
    · simp [here]

/-- The reader of an uplink after a synchronisation. -/
theorem lookup_syncReaders (connIds : List Nat) (id : Nat) :
    (t.syncReaders connIds).readers.lookup id =
      if id ∈ connIds then
        (t.readers.lookup id).or ((t.sockets.lookup id).map fun socket => { socket })
      else none := by
  simp only [syncReaders, FiniteMap.lookup_retain_key, lookup_spawnMissing, decide_eq_true_eq]
  split
  · rfl
  · rfl

@[simp] theorem sockets_syncReaders (connIds : List Nat) :
    (t.syncReaders connIds).sockets = t.sockets := rfl

theorem foldl_closeSocket (connIds : List Nat) :
    connIds.foldl closeSocket t =
      { t with sockets := connIds.foldl (fun sockets id => sockets.erase id) t.sockets } := by
  induction connIds generalizing t with
  | nil => rfl
  | cons first rest ih => exact ih (t.closeSocket first)

theorem readers_foldl_openSocket (connIds : List Nat) :
    (connIds.foldl openSocket t).readers = t.readers := by
  induction connIds generalizing t with
  | nil => rfl
  | cons first rest ih => exact ih (t.openSocket first)

theorem lookup_foldl_openSocket {connIds : List Nat} {id : Nat} (other : id ∉ connIds) :
    (connIds.foldl openSocket t).sockets.lookup id = t.sockets.lookup id := by
  induction connIds generalizing t with
  | nil => rfl
  | cons first rest ih =>
    rw [List.foldl_cons, ih _ fun member => other (List.mem_cons_of_mem first member)]
    refine AList.lookup_insert_ne fun same => other ?_
    rw [same]
    exact List.mem_cons_self

theorem mem_foldl_openSocket (connIds : List Nat) (id : Nat) :
    id ∈ (connIds.foldl openSocket t).sockets ↔ id ∈ connIds ∨ id ∈ t.sockets := by
  induction connIds generalizing t with
  | nil => simp
  | cons first rest ih =>
    rw [List.foldl_cons, ih, List.mem_cons, openSocket, AList.mem_insert]
    tauto

end Tables

/-! ### Sockets are not shared -/

/-- Every socket in the table was opened, and for one uplink. -/
structure Apart (t : UplinkTasks) : Prop where
  opened : ∀ id socket, t.sockets.lookup id = some socket → socket < t.nextSocket
  apart : ∀ id id' socket, t.sockets.lookup id = some socket → t.sockets.lookup id' = some socket →
    id = id'

section Apart

variable {t : UplinkTasks}

theorem Apart.openSocket (apart : t.Apart) (connId : Nat) : (t.openSocket connId).Apart := by
  -- the number of the new socket is above all that were given out
  have new : ∀ id socket, (t.openSocket connId).sockets.lookup id = some socket →
      (id = connId ∧ socket = t.nextSocket) ∨ (id ≠ connId ∧ t.sockets.lookup id = some socket) := by
    intro id socket found
    simp only [UplinkTasks.openSocket] at found
    by_cases here : id = connId
    · subst here
      rw [AList.lookup_insert] at found
      exact Or.inl ⟨rfl, (Option.some.inj found).symm⟩
    · rw [AList.lookup_insert_ne here] at found
      exact Or.inr ⟨here, found⟩
  constructor
  · intro id socket found
    change socket < t.nextSocket + 1
    rcases new id socket found with ⟨-, rfl⟩ | ⟨-, old⟩
    · omega
    · have := apart.opened id socket old
      omega
  · intro id id' socket found found'
    rcases new id socket found with ⟨rfl, rfl⟩ | ⟨-, old⟩
    · rcases new id' t.nextSocket found' with ⟨rfl, -⟩ | ⟨-, old'⟩
      · rfl
      · exact absurd (apart.opened id' _ old') (lt_irrefl _)
    · rcases new id' socket found' with ⟨-, rfl⟩ | ⟨-, old'⟩
      · exact absurd (apart.opened id _ old) (lt_irrefl _)
      · exact apart.apart id id' socket old old'

theorem Apart.foldl_openSocket (apart : t.Apart) (connIds : List Nat) :
    (connIds.foldl UplinkTasks.openSocket t).Apart := by
  induction connIds generalizing t with
  | nil => exact apart
  | cons first rest ih => exact ih (apart.openSocket first)

theorem Apart.foldl_closeSocket (apart : t.Apart) (connIds : List Nat) :
    (connIds.foldl UplinkTasks.closeSocket t).Apart := by
  rw [UplinkTasks.foldl_closeSocket]
  have old : ∀ id socket,
      (connIds.foldl (fun sockets id => sockets.erase id) t.sockets).lookup id = some socket →
        t.sockets.lookup id = some socket := by
    intro id socket found
    rw [FiniteMap.lookup_foldl_erase] at found
    split at found
    · cases found
    · exact found
  exact ⟨fun id socket found => apart.opened id socket (old id socket found),
    fun id id' socket found found' => apart.apart id id' socket (old _ _ found) (old _ _ found')⟩

end Apart

/-! ### Every uplink has its reader -/

/-- The tables have exactly the uplinks, and each reader reads the present socket. -/
structure Manned (connIds : List Nat) (t : UplinkTasks) : Prop extends t.Apart where
  sockets : ∀ id, id ∈ t.sockets ↔ id ∈ connIds
  reader : ∀ id ∈ connIds, ∃ reader, t.readers.lookup id = some reader ∧
    t.sockets.lookup id = some reader.socket
  others : ∀ id ∉ connIds, t.readers.lookup id = none

section Manned

variable {connIds : List Nat} {t : UplinkTasks}

theorem Manned.reopen (manned : Manned connIds t) {connId : Nat} (member : connId ∈ connIds) :
    Manned connIds (t.reopen connId) := by
  have apart := manned.toApart.openSocket connId
  rw [reopen_eq]
  refine ⟨⟨apart.opened, apart.apart⟩, fun id => ?_, fun id inside => ?_, fun id outside => ?_⟩
  · rw [AList.mem_insert, manned.sockets]
    constructor
    · rintro (rfl | old)
      · exact member
      · exact old
    · exact Or.inr
  · by_cases here : id = connId
    · subst here
      exact ⟨_, AList.lookup_insert _, AList.lookup_insert _⟩
    · rw [AList.lookup_insert_ne here, AList.lookup_insert_ne here]
      exact manned.reader id inside
  · have here : id ≠ connId := by
      rintro rfl
      exact outside member
    rw [AList.lookup_insert_ne here]
    exact manned.others id outside

/-- Another handle for the socket that the reader has. -/
theorem Manned.replaceReader (manned : Manned connIds t) {connId socket : Nat} (finished : Bool)
    (found : t.sockets.lookup connId = some socket) :
    Manned connIds { t with readers := t.readers.insert connId { socket, finished } } := by
  have member : connId ∈ connIds := by
    rw [← manned.sockets, ← AList.lookup_isSome, found]
    rfl
  refine ⟨⟨manned.opened, manned.apart⟩, manned.sockets, fun id inside => ?_, fun id outside => ?_⟩
  · by_cases here : id = connId
    · subst here
      exact ⟨_, AList.lookup_insert _, found⟩
    · rw [AList.lookup_insert_ne here]
      exact manned.reader id inside
  · have here : id ≠ connId := by
      rintro rfl
      exact outside member
    rw [AList.lookup_insert_ne here]
    exact manned.others id outside

theorem Manned.restartReaderFor (manned : Manned connIds t) (connId : Nat) :
    Manned connIds (t.restartReaderFor connId) := by
  unfold UplinkTasks.restartReaderFor
  cases found : t.sockets.lookup connId with
  | none => exact manned
  | some socket => exact manned.replaceReader false found

theorem Manned.readerEnded (manned : Manned connIds t) (connId : Nat) :
    Manned connIds (t.readerEnded connId) := by
  unfold UplinkTasks.readerEnded
  cases found : t.readers.lookup connId with
  | none => exact manned
  | some reader =>
    by_cases member : connId ∈ connIds
    · obtain ⟨reader', found', current⟩ := manned.reader connId member
      obtain rfl := Option.some.inj (found.symm.trans found')
      exact manned.replaceReader true current
    · rw [manned.others connId member] at found
      cases found

/-- The uplinks `removed` leave and the uplinks `added` come. -/
theorem Manned.replace (manned : Manned connIds t) (kept removed added : List Nat)
    (split : ∀ id, id ∈ connIds ↔ id ∈ kept ∨ id ∈ removed)
    (stays : ∀ id ∈ kept, id ∉ removed) (fresh : ∀ id ∈ added, id ∉ connIds) :
    Manned (kept ++ added)
      ((added.foldl UplinkTasks.openSocket
        (removed.foldl UplinkTasks.closeSocket t)).syncReaders (kept ++ added)) := by
  have apart := (manned.toApart.foldl_closeSocket removed).foldl_openSocket added
  -- the sockets of the uplinks that stay are untouched
  have untouched : ∀ id ∈ kept,
      (added.foldl UplinkTasks.openSocket (removed.foldl UplinkTasks.closeSocket t)).sockets.lookup id =
        t.sockets.lookup id := by
    intro id member
    have old : id ∈ connIds := (split id).mpr (Or.inl member)
    rw [lookup_foldl_openSocket _ fun new => fresh id new old, foldl_closeSocket,
      FiniteMap.lookup_foldl_erase, if_neg (stays id member)]
  have readers : (added.foldl UplinkTasks.openSocket
      (removed.foldl UplinkTasks.closeSocket t)).readers = t.readers := by
    rw [readers_foldl_openSocket, foldl_closeSocket]
  have present : ∀ id, id ∈ (added.foldl UplinkTasks.openSocket
      (removed.foldl UplinkTasks.closeSocket t)).sockets ↔ id ∈ kept ++ added := by
    intro id
    have left : id ∈ (removed.foldl UplinkTasks.closeSocket t).sockets ↔
        id ∈ connIds ∧ id ∉ removed := by
      rw [← AList.lookup_isSome, foldl_closeSocket, FiniteMap.lookup_foldl_erase]
      split
      case isTrue gone => simp [gone]
      case isFalse stay => rw [AList.lookup_isSome, manned.sockets, and_iff_left stay]
    rw [mem_foldl_openSocket, left, List.mem_append, split]
    constructor
    · rintro (new | ⟨kept | gone, stay⟩)
      · exact Or.inr new
      · exact Or.inl kept
      · exact absurd gone stay
    · rintro (member | new)
      · exact Or.inr ⟨Or.inl member, stays id member⟩
      · exact Or.inl new
  refine ⟨⟨apart.opened, apart.apart⟩, present, fun id inside => ?_, fun id outside => ?_⟩
  · rw [lookup_syncReaders, if_pos inside, readers, sockets_syncReaders]
    rcases List.mem_append.mp inside with member | new
    · obtain ⟨reader, found, current⟩ := manned.reader id ((split id).mpr (Or.inl member))
      exact ⟨reader, by rw [found, Option.some_or], by rw [untouched id member, current]⟩
    · obtain ⟨socket, found⟩ := Option.isSome_iff_exists.mp
        (AList.lookup_isSome.mpr ((present id).mpr inside))
      rw [manned.others id (fresh id new), found]
      exact ⟨_, rfl, rfl⟩
  · rw [lookup_syncReaders, if_neg outside]

theorem Manned.syncReaders (manned : Manned connIds t) : Manned connIds (t.syncReaders connIds) := by
  have same := manned.replace connIds [] []
    (fun id => by simp) (fun id _ => List.not_mem_nil) (fun id new => absurd new List.not_mem_nil)
  rwa [List.append_nil] at same

/-- New sockets and readers for uplinks that had none. -/
theorem manned_start (connIds : List Nat) :
    Manned connIds ((connIds.foldl UplinkTasks.openSocket {}).syncReaders connIds) := by
  have empty : Manned [] {} :=
    ⟨⟨fun id socket found => (by cases found), fun id id' socket found => (by cases found)⟩,
      fun id => iff_of_false (AList.notMem_empty id) List.not_mem_nil,
      fun id member => absurd member List.not_mem_nil, fun id _ => rfl⟩
  exact empty.replace [] [] connIds (fun id => by simp)
    (fun id member => absurd member List.not_mem_nil) (fun id _ => List.not_mem_nil)

theorem Manned.tendUplink (manned : Manned connIds t) (env : HousekeepingEnv) {s : Sender}
    (uplinks : s.conns.map (·.connId) = connIds) (i : Nat) : Manned connIds (t.tendUplink env s i) := by
  simp only [UplinkTasks.tendUplink]
  cases at_i : s.conns[i]? with
  | none => exact manned
  | some c =>
    have member : c.connId ∈ connIds := by
      rw [← uplinks]
      exact List.mem_map_of_mem (List.mem_of_getElem? at_i)
    simp only
    split
    · split
      · exact manned.reopen member
      · exact manned
    · split
      · exact manned.restartReaderFor c.connId
      · exact manned

theorem Manned.rehome (manned : Manned connIds t) (connIo : ConnIoMap) (opened : Nat → Bool)
    {conns : List SrtlaConnection} (inside : ∀ c ∈ conns, c.connId ∈ connIds) :
    Manned connIds (t.rehome connIo opened conns) := by
  unfold UplinkTasks.rehome
  induction conns generalizing t with
  | nil => exact manned
  | cons c rest ih =>
    rw [List.foldl_cons]
    refine ih ?_ fun c' member => inside c' (List.mem_cons_of_mem c member)
    split
    · exact manned.reopen (inside c List.mem_cons_self)
    · exact manned

end Manned

/-! ### Readers that read -/

/-- The uplink has a reader that has not ended. -/
def Reads (t : UplinkTasks) (id : Nat) : Prop :=
  ∃ reader, t.readers.lookup id = some reader ∧ reader.finished = false

section Reads

variable {t : UplinkTasks} {id : Nat}

theorem reads_insert (connId socket : Nat) (same : id = connId ∨ t.Reads id) :
    Reads { t with readers := t.readers.insert connId { socket } } id := by
  by_cases here : id = connId
  · subst here
    exact ⟨_, AList.lookup_insert _, rfl⟩
  · obtain ⟨reader, found, reads⟩ := same.resolve_left here
    exact ⟨reader, (AList.lookup_insert_ne here).trans found, reads⟩

/-- A reader that reads goes on, and the reader of a new socket reads. -/
theorem reads_reopen (connId : Nat) (same : id = connId ∨ t.Reads id) : (t.reopen connId).Reads id := by
  have inserted := reads_insert connId t.nextSocket same
  rw [reopen_eq]
  exact inserted

theorem Reads.restartReaderFor (reads : t.Reads id) (connId : Nat) :
    (t.restartReaderFor connId).Reads id := by
  unfold UplinkTasks.restartReaderFor
  cases t.sockets.lookup connId with
  | none => exact reads
  | some socket => exact reads_insert connId socket (Or.inr reads)

theorem reads_restartReaderFor (present : id ∈ t.sockets) : (t.restartReaderFor id).Reads id := by
  obtain ⟨socket, found⟩ := Option.isSome_iff_exists.mp (AList.lookup_isSome.mpr present)
  unfold UplinkTasks.restartReaderFor
  rw [found]
  exact reads_insert id socket (Or.inl rfl)

theorem Reads.tendUplink (reads : t.Reads id) (env : HousekeepingEnv) (s : Sender) (i : Nat) :
    (t.tendUplink env s i).Reads id := by
  simp only [UplinkTasks.tendUplink]
  cases s.conns[i]? with
  | none => exact reads
  | some c =>
    simp only
    split
    · split
      · exact reads_reopen c.connId (Or.inr reads)
      · exact reads
    · split
      · exact reads.restartReaderFor c.connId
      · exact reads

/-- After its turn in a pass, a link that is alive has a reader that reads. -/
theorem Manned.reads_tendUplink {connIds : List Nat} (manned : Manned connIds t)
    (env : HousekeepingEnv) {s : Sender} {i : Nat} {c : SrtlaConnection} (at_i : s.conns[i]? = some c)
    (member : c.connId ∈ connIds) (entry : c.connId ∈ s.connIo)
    (alive : c.isTimedOut env.now = false) : (t.tendUplink env s i).Reads c.connId := by
  obtain ⟨reader, found, -⟩ := manned.reader c.connId member
  simp only [UplinkTasks.tendUplink, at_i, alive, Bool.false_eq_true, if_false, found, Option.any_some,
    entry, and_true]
  split
  · exact reads_restartReaderFor ((manned.sockets c.connId).mpr member)
  case isFalse reading => exact ⟨reader, found, Bool.eq_false_iff.mpr reading⟩

theorem Reads.rehome (reads : t.Reads id) (connIo : ConnIoMap) (opened : Nat → Bool)
    (conns : List SrtlaConnection) : (t.rehome connIo opened conns).Reads id := by
  unfold UplinkTasks.rehome
  induction conns generalizing t with
  | nil => exact reads
  | cons c rest ih =>
    rw [List.foldl_cons]
    refine ih ?_
    split
    · exact reads_reopen c.connId (Or.inr reads)
    · exact reads

/-- A synchronisation leaves the readers of the uplinks alone, and adds the missing ones. -/
theorem reads_syncReaders {connIds : List Nat} (member : id ∈ connIds)
    (reads : t.Reads id ∨ (t.readers.lookup id = none ∧ id ∈ t.sockets)) :
    (t.syncReaders connIds).Reads id := by
  unfold Reads
  rw [lookup_syncReaders, if_pos member]
  rcases reads with ⟨reader, found, reading⟩ | ⟨missing, present⟩
  · exact ⟨reader, by rw [found, Option.some_or], reading⟩
  · obtain ⟨socket, found⟩ := Option.isSome_iff_exists.mp (AList.lookup_isSome.mpr present)
    rw [missing, found]
    exact ⟨_, rfl, rfl⟩

end Reads

end UplinkTasks

/-! ### Handlers -/

namespace Sender

/-- The I/O map has exactly the uplinks. -/
def IoFollows (s : Sender) : Prop := ∀ id, id ∈ s.connIo ↔ id ∈ s.conns.map (·.connId)

section Io

variable {s : Sender}

/-- Before its own turn an uplink is as it was when the loop began. -/
theorem getElem?_reaching (env : HousekeepingEnv) {i j : Nat} (le : i ≤ j) :
    (s.reaching env i).conns[j]? = (s.beginHousekeeping env).conns[j]? := by
  induction i with
  | zero => rfl
  | succ i ih =>
    rw [reaching_succ, ← ih (by omega)]
    have elsewhere : i ≠ j := by omega
    rcases housekeepUplink_cases env (s.reaching env i) i with ⟨h, -⟩ | ⟨c, -, -, h⟩ | ⟨c, -, -, h⟩
    · rw [h]
    · rw [h]
      exact List.getElem?_set_ne elsewhere
    · rw [h]
      exact List.getElem?_set_ne elsewhere

theorem connIo_handleHousekeeping (env : HousekeepingEnv) (id : Nat) :
    id ∈ (s.handleHousekeeping env).1.connIo ↔ id ∈ s.connIo := by
  rw [← (sameSetting_driven env s).connIo]
  cases s.passEnd env with
  | alive _ _ after => rw [after]
  | allFailed _ _ rehome after => rw [after]
  | moved _ _ _ _ _ newRemote _ _ _ _ rehome after =>
    -- a move writes the new address into the entries there are
    rw [after]
    simp only [rehomeBond_connIo]
    rw [← AList.lookup_isSome, lookup_repoint]
    split
    case isTrue here => simp [here.2]
    case isFalse => rw [AList.lookup_isSome]

theorem connIo_handleUplinkPacket (hashOf : Bytes → Nat) (connId : Nat) (bytes : Bytes)
    (env : UplinkEnv) : (s.handleUplinkPacket hashOf connId bytes env).connIo = s.connIo :=
  congrArg (fun t => t.connIo) (s.handleUplinkPacket_frame hashOf connId bytes env)

/-- Only a reload changes which uplinks there are, and which of them have an I/O entry. -/
theorem io_step (ext : Externals) {e : Event} (other : ∀ env, e ≠ .reload env) :
    (s.step ext e).conns.map (·.connId) = s.conns.map (·.connId) ∧
      ∀ id, id ∈ (s.step ext e).connIo ↔ id ∈ s.connIo := by
  refine ⟨(keeps_step ext s other).uplinks.connIds, fun id => ?_⟩
  cases e with
  | housekeeping env => exact connIo_handleHousekeeping env id
  | uplink connId bytes env => rw [step_uplink, connIo_handleUplinkPacket]
  | reload env => exact absurd rfl (other env)
  | data pkt src sends config criticalWindow now => exact Iff.rfl
  | flush sends now => exact Iff.rfl
  | classify verdict => exact Iff.rfl

theorem io_run (ext : Externals) {es : List Event} (other : ∀ env, Event.reload env ∉ es) :
    (run (step ext) s es).conns.map (·.connId) = s.conns.map (·.connId) ∧
      ∀ id, id ∈ (run (step ext) s es).connIo ↔ id ∈ s.connIo := by
  induction es generalizing s with
  | nil => exact ⟨rfl, fun id => Iff.rfl⟩
  | cons e es ih =>
    obtain ⟨ids, io⟩ := io_step (s := s) ext (e := e) fun env equal =>
      other env (equal ▸ List.mem_cons_self)
    obtain ⟨ids', io'⟩ := ih (s := s.step ext e) fun env member =>
      other env (List.mem_cons_of_mem e member)
    exact ⟨ids'.trans ids, fun id => (io' id).trans (io id)⟩

theorem connIds_dialedBy (ext : Externals) (env : ReloadEnv) :
    (dialedBy ext s env).map (fun entry => entry.2.connId) = s.addedIds ext env := by
  rw [dialedBy, addedIds, List.map_filterMap]
  refine List.filterMap_congr fun ip _ => ?_
  rw [Option.map_map]
  rfl

/-- The uplinks of a bond are those a reload keeps and those it drops. -/
theorem mem_connIds_iff (ext : Externals) (env : ReloadEnv) (id : Nat) :
    id ∈ s.conns.map (·.connId) ↔
      id ∈ (s.conns.filter (wanted ext env)).map (·.connId) ∨ id ∈ removedIds ext s env := by
  simp only [removedIds, List.mem_map, List.mem_filter, Bool.not_eq_true']
  constructor
  · rintro ⟨c, member, rfl⟩
    cases stays : wanted ext env c with
    | true => exact Or.inl ⟨c, ⟨member, stays⟩, rfl⟩
    | false => exact Or.inr ⟨c, ⟨member, stays⟩, rfl⟩
  · rintro (⟨c, ⟨member, -⟩, rfl⟩ | ⟨c, ⟨member, -⟩, rfl⟩)
    · exact ⟨c, member, rfl⟩
    · exact ⟨c, member, rfl⟩

theorem not_mem_removedIds (ext : Externals) (env : ReloadEnv)
    (distinct : (s.conns.map (·.connId)).Nodup) {id : Nat}
    (kept : id ∈ (s.conns.filter (wanted ext env)).map (·.connId)) : id ∉ removedIds ext s env := by
  obtain ⟨c, member, rfl⟩ := List.mem_map.mp kept
  obtain ⟨present, stays⟩ := List.mem_filter.mp member
  intro dropped
  obtain ⟨c', member', same⟩ := List.mem_map.mp dropped
  obtain ⟨present', leaves⟩ := List.mem_filter.mp member'
  rw [List.inj_on_of_nodup_map distinct present' present same, stays] at leaves
  cases leaves

theorem not_mem_addedIds (ext : Externals) {env : ReloadEnv}
    (fresh : s.drawsFreshIds (.reload env) = true) {id : Nat} (added : id ∈ s.addedIds ext env) :
    id ∉ s.conns.map (·.connId) := by
  obtain ⟨ip, missing, drawn⟩ := List.mem_filterMap.mp added
  obtain ⟨d, dialed, rfl⟩ := Option.map_eq_some_iff.mp drawn
  have listed : ip ∈ env.newIps := List.mem_eraseDups.mp (List.mem_filter.mp missing).1
  intro old
  obtain ⟨c, member, same⟩ := List.mem_map.mp old
  exact connId_ne_of_dialed fresh listed dialed c member same

theorem ioFollows_applyReload (ext : Externals) (env : ReloadEnv) (follows : s.IoFollows)
    (distinct : (s.conns.map (·.connId)).Nodup) : (s.applyReload ext.showIp env).IoFollows := by
  intro id
  have left : id ∈ (removedIds ext s env).foldl (fun io id => io.erase id) s.connIo ↔
      id ∈ (s.conns.filter (wanted ext env)).map (·.connId) := by
    rw [← AList.lookup_isSome, FiniteMap.lookup_foldl_erase]
    split
    case isTrue dropped =>
      exact iff_of_false (by simp) fun kept => not_mem_removedIds ext env distinct kept dropped
    case isFalse stays =>
      rw [AList.lookup_isSome, follows, mem_connIds_iff ext env, or_iff_left stays]
  rw [connIds_applyReload, connIo_applyReload, List.mem_append, ← left, ← AList.lookup_isSome,
    ← AList.lookup_isSome, ← connIds_dialedBy]
  rcases FiniteMap.lookup_foldl_insert (fun entry : IpAddr × Dialed => entry.2.connId)
    (fun entry => entry.2.remote) (dialedBy ext s env)
    ((removedIds ext s env).foldl (fun io id => io.erase id) s.connIo) id with
    ⟨entry, member, same, held⟩ | ⟨others, held⟩
  · rw [held]
    exact iff_of_true rfl (Or.inr (List.mem_map.mpr ⟨entry, member, same⟩))
  · rw [held]
    refine (or_iff_left fun member => ?_).symm
    obtain ⟨entry, dialed, same⟩ := List.mem_map.mp member
    exact others entry dialed same

end Io

/-! ### A pass -/

section Pass

variable (env : HousekeepingEnv) (s : Sender) (t : UplinkTasks)

/-- The tasks before the turn of uplink `i`. -/
def tasksReaching (i : Nat) : UplinkTasks :=
  (List.range i).foldl (fun t j => t.tendUplink env (s.reaching env j) j) t

theorem tasksReaching_succ (i : Nat) :
    s.tasksReaching env t (i + 1) = (s.tasksReaching env t i).tendUplink env (s.reaching env i) i := by
  simp only [tasksReaching, List.range_succ, List.foldl_append, List.foldl_cons, List.foldl_nil]

theorem housekeepWithTasks_snd :
    (s.housekeepWithTasks t env).2 =
      if (s.driven env).movesBond env then
        (s.tasksReaching env t s.conns.length).rehome (s.driven env).connIo env.rehome.opened
          (s.driven env).conns
      else s.tasksReaching env t s.conns.length := by
  have loop (k : Nat) : (List.range k).foldl
      (fun acc i => (housekeepUplink env acc.1 i, acc.2.tendUplink env acc.1 i))
      (s.beginHousekeeping env, t) = (s.reaching env k, s.tasksReaching env t k) := by
    induction k with
    | zero => rfl
    | succ k ih =>
      rw [List.range_succ, List.foldl_append, ih, reaching_succ, tasksReaching_succ]
      rfl
  simp only [housekeepWithTasks, length_beginHousekeeping, loop]
  rfl

variable {env s t}

theorem manned_tasksReaching (manned : UplinkTasks.Manned (s.conns.map (·.connId)) t) (i : Nat) :
    UplinkTasks.Manned (s.conns.map (·.connId)) (s.tasksReaching env t i) := by
  induction i with
  | zero => exact manned
  | succ i ih =>
    rw [tasksReaching_succ]
    exact ih.tendUplink env (sameUplinks_reaching env s i).connIds i

theorem manned_housekeepWithTasks (env : HousekeepingEnv)
    (manned : UplinkTasks.Manned (s.conns.map (·.connId)) t) :
    UplinkTasks.Manned (s.conns.map (·.connId)) (s.housekeepWithTasks t env).2 := by
  rw [housekeepWithTasks_snd]
  split
  · refine (manned_tasksReaching manned _).rehome _ _ fun c member => ?_
    rw [← (sameUplinks_driven env s).connIds]
    exact List.mem_map_of_mem member
  · exact manned_tasksReaching manned _

/-- After a pass every link that the loop found alive has a reader that reads. -/
theorem reads_housekeepWithTasks (manned : UplinkTasks.Manned (s.conns.map (·.connId)) t)
    (follows : s.IoFollows) {c : SrtlaConnection} (member : c ∈ (s.beginHousekeeping env).conns)
    (alive : c.isTimedOut env.now = false) : (s.housekeepWithTasks t env).2.Reads c.connId := by
  obtain ⟨i, inside, rfl⟩ := List.getElem_of_mem member
  have at_i := List.getElem?_eq_getElem inside
  set c := (s.beginHousekeeping env).conns[i] with c_eq
  have uplink : c.connId ∈ s.conns.map (·.connId) := by
    rw [← (sameBond_beginHousekeeping env s).uplinks.connIds]
    exact List.mem_map_of_mem member
  -- its own turn gives it a reader, and the later turns leave it one
  have served (k : Nat) : (s.tasksReaching env t (i + 1 + k)).Reads c.connId := by
    induction k with
    | zero =>
      rw [Nat.add_zero, tasksReaching_succ]
      refine (manned_tasksReaching manned i).reads_tendUplink env ?_ uplink ?_ alive
      · rw [getElem?_reaching env le_rfl, at_i]
      · rw [(sameSetting_reaching env s i).connIo, follows]
        exact uplink
    | succ k ih =>
      rw [← Nat.add_assoc, tasksReaching_succ]
      exact ih.tendUplink env _ _
  have all : (s.tasksReaching env t s.conns.length).Reads c.connId := by
    rw [length_beginHousekeeping] at inside
    have := served (s.conns.length - (i + 1))
    rwa [Nat.add_sub_cancel' inside] at this
  rw [housekeepWithTasks_snd]
  split
  · exact all.rehome _ _ _
  · exact all

end Pass

/-! ### A reload -/

section Reload

variable {ext : Externals} {s : Sender} {t : UplinkTasks} {env : ReloadEnv}

theorem reloadTasks_eq :
    s.reloadTasks ext.showIp t env =
      (s.addedIds ext env).foldl UplinkTasks.openSocket
        ((removedIds ext s env).foldl UplinkTasks.closeSocket t) := by
  have added : ((s.applyReload ext.showIp env).conns.drop
      (s.conns.filter (desiredBy ext.showIp env)).length).map (·.connId) = s.addedIds ext env := by
    rw [List.map_drop, connIds_applyReload]
    exact List.drop_left' (by rw [List.length_map]; rfl)
  simp only [reloadTasks, added]
  rfl

theorem manned_reloadTasks (manned : UplinkTasks.Manned (s.conns.map (·.connId)) t)
    (distinct : (s.conns.map (·.connId)).Nodup) (fresh : s.drawsFreshIds (.reload env) = true) :
    UplinkTasks.Manned ((s.applyReload ext.showIp env).conns.map (·.connId))
      ((s.reloadTasks ext.showIp t env).syncReaders
        ((s.applyReload ext.showIp env).conns.map (·.connId))) := by
  rw [connIds_applyReload, reloadTasks_eq]
  exact manned.replace _ _ _ (fun id => mem_connIds_iff ext env id)
    (fun id kept => not_mem_removedIds ext env distinct kept)
    (fun id added => not_mem_addedIds ext fresh added)

/-- After a reload an uplink has a reader that reads if it is new, or if it had one. -/
theorem reads_reloadTasks (manned : UplinkTasks.Manned (s.conns.map (·.connId)) t) {id : Nat}
    (member : id ∈ (s.applyReload ext.showIp env).conns.map (·.connId))
    (reads : id ∈ s.conns.map (·.connId) → t.Reads id) :
    ((s.reloadTasks ext.showIp t env).syncReaders
      ((s.applyReload ext.showIp env).conns.map (·.connId))).Reads id := by
  have readers : (s.reloadTasks ext.showIp t env).readers = t.readers := by
    rw [reloadTasks_eq, UplinkTasks.readers_foldl_openSocket, UplinkTasks.foldl_closeSocket]
  refine UplinkTasks.reads_syncReaders member ?_
  by_cases old : id ∈ s.conns.map (·.connId)
  · obtain ⟨reader, found, reading⟩ := reads old
    exact Or.inl ⟨reader, by rw [readers, found], reading⟩
  · refine Or.inr ⟨by rw [readers, manned.others id old], ?_⟩
    rw [connIds_applyReload, List.mem_append] at member
    rw [reloadTasks_eq, UplinkTasks.mem_foldl_openSocket]
    refine Or.inl (member.resolve_left fun kept => old ?_)
    exact (mem_connIds_iff ext env id).mpr (Or.inl kept)

end Reload

/-! ### Any handler -/

/-- The ids of the uplinks differ, and I/O map, sockets and readers have just these ids. -/
structure Attended (s : Sender) (t : UplinkTasks) : Prop where
  distinct : (s.conns.map (·.connId)).Nodup
  io : s.IoFollows
  manned : UplinkTasks.Manned (s.conns.map (·.connId)) t

section Attended

variable {ext : Externals} {s : Sender} {t : UplinkTasks}

theorem Attended.of_same {s' : Sender} (attended : s.Attended t)
    (uplinks : s'.conns.map (·.connId) = s.conns.map (·.connId))
    (io : ∀ id, id ∈ s'.connIo ↔ id ∈ s.connIo) : s'.Attended t := by
  refine ⟨?_, fun id => ?_, ?_⟩
  · rw [uplinks]
    exact attended.distinct
  · rw [io, uplinks]
    exact attended.io id
  · rw [uplinks]
    exact attended.manned

theorem Attended.run (attended : s.Attended t) (ext : Externals) (es : List Event)
    (other : ∀ env, Event.reload env ∉ es) :
    (Runs.run (step ext) s es).Attended t := by
  obtain ⟨uplinks, io⟩ := io_run (s := s) ext other
  exact attended.of_same uplinks io

theorem Attended.housekeep (attended : s.Attended t) (env : HousekeepingEnv) :
    (s.housekeepWithTasks t env).1.Attended (s.housekeepWithTasks t env).2 := by
  have manned := manned_housekeepWithTasks env attended.manned
  rw [housekeepWithTasks_fst]
  exact Attended.of_same ⟨attended.distinct, attended.io, manned⟩
    (sameUplinks_handleHousekeeping env s).connIds (connIo_handleHousekeeping env)

theorem Attended.reload (attended : s.Attended t) {env : ReloadEnv}
    (fresh : s.drawsFreshIds (.reload env) = true) :
    (s.applyReload ext.showIp env).Attended
      ((s.reloadTasks ext.showIp t env).syncReaders
        ((s.applyReload ext.showIp env).conns.map (·.connId))) :=
  ⟨nodup_applyReload attended.distinct fresh,
    ioFollows_applyReload ext env attended.io attended.distinct,
    manned_reloadTasks attended.manned attended.distinct fresh⟩

/-- The tables of the uplinks that are dialled at startup. -/
theorem attended_startup {host : String} {port : Nat} {dial : Nat → IpAddr → Option Dialed}
    {ips : List IpAddr} {weights : List Nat} {id probeId : SrtlaId} {enabled : Bool} {now : Nat}
    (started : startup ext host port dial ips weights id probeId enabled now = some s)
    (draws : (ips.zipIdx.filterMap fun entry => (dial entry.2 entry.1).map (·.connId)).Nodup) :
    s.Attended
      (((s.conns.map (·.connId)).foldl UplinkTasks.openSocket {}).syncReaders
        (s.conns.map (·.connId))) := by
  set dialed := ips.zipIdx.filterMap fun entry => (dial entry.2 entry.1).map fun d => (entry.1, d)
    with dialed_eq
  have uplinks : s.conns.map (·.connId) = dialed.map fun entry => entry.2.connId := by
    rw [(conns_startup started).2.connIds]
    simp only [createConnectionsFromIps, List.map_map]
    rfl
  have drawn : (dialed.map fun entry => entry.2.connId) =
      ips.zipIdx.filterMap fun entry => (dial entry.2 entry.1).map (·.connId) := by
    rw [dialed_eq, List.map_filterMap]
    refine List.filterMap_congr fun entry _ => ?_
    rw [Option.map_map]
    rfl
  -- an address that cannot be dialed gets neither a link nor an entry
  have entries : s.connIo = dialed.foldl (fun io entry => io.insert entry.2.connId entry.2.remote) ∅ := by
    simp only [startup] at started
    split at started
    · cases started
    · obtain rfl := Option.some.inj started
      rfl
  refine ⟨?_, fun id => ?_, UplinkTasks.manned_start _⟩
  · rw [uplinks, drawn]
    exact draws
  · rw [uplinks, entries, ← AList.lookup_isSome]
    rcases FiniteMap.lookup_foldl_insert (fun entry : IpAddr × Dialed => entry.2.connId)
      (fun entry => entry.2.remote) dialed ∅ id with ⟨entry, member, same, held⟩ | ⟨others, held⟩
    · rw [held]
      exact iff_of_true rfl (List.mem_map.mpr ⟨entry, member, same⟩)
    · rw [held, AList.lookup_empty]
      refine iff_of_false Bool.false_ne_true fun member => ?_
      obtain ⟨entry, inside, same⟩ := List.mem_map.mp member
      exact others entry inside same

end Attended

end Sender

/-! ### The loop -/

namespace SenderLoop

section Step

variable {setup : LoopSetup} {l : SenderLoop}

/-- A drain handles datagrams only. -/
theorem attended_drain (attended : l.sender.Attended l.tasks) (classic : Bool) (io : Nat → ReceiveIo) :
    (l.drainPacketQueue setup classic io).sender.Attended
      (l.drainPacketQueue setup classic io).tasks := by
  rw [drainPacketQueue_eq]
  exact attended.run _ _ fun env => reload_not_mem_drainEvents _ _ _ env

theorem tasks_judged (io : TickIo) :
    ((l.housekeep io.env).judgeLinks setup io.ccNow).tasks =
      (l.sender.housekeepWithTasks l.tasks io.env).2 := by
  simp only [judgeLinks, housekeep]

theorem attended_judged (setup : LoopSetup) (attended : l.sender.Attended l.tasks) (io : TickIo) :
    ((l.housekeep io.env).judgeLinks setup io.ccNow).sender.Attended
      ((l.housekeep io.env).judgeLinks setup io.ccNow).tasks := by
  have housekept := attended.housekeep io.env
  rw [Sender.housekeepWithTasks_fst] at housekept
  rw [judged_sender, tasks_judged, run_cons, Sender.step_housekeeping]
  exact housekept.run _ _ fun env => by simp

theorem applyPending_none {dial : IpAddr → Option Dialed} (nothing : l.pendingReload dial = none) :
    (l.applyPending setup dial).sender = l.sender ∧ (l.applyPending setup dial).tasks = l.tasks := by
  rcases pending : l.pendingChanges with _ | ⟨_ | newIps, newWeights, host, port⟩
  · simp only [applyPending, pending, and_self]
  · simp only [applyPending, pending, and_self]
  · simp [pendingReload, pending] at nothing

theorem applyPending_some {dial : IpAddr → Option Dialed} {env : ReloadEnv}
    (reload : l.pendingReload dial = some env) :
    (l.applyPending setup dial).sender = l.sender.applyReload setup.showIp env ∧
      (l.applyPending setup dial).tasks =
        (l.sender.reloadTasks setup.showIp l.tasks env).syncReaders
          ((l.sender.applyReload setup.showIp env).conns.map (·.connId)) := by
  rcases pending : l.pendingChanges with _ | ⟨_ | newIps, newWeights, host, port⟩
  · simp [pendingReload, pending] at reload
  · simp [pendingReload, pending] at reload
  · simp only [pendingReload, pending, Option.bind_some, Option.map_some, Option.some.injEq] at reload
    subst reload
    simp only [applyPending, pending, and_self]

theorem pendingReload_judged (io : TickIo) :
    ((l.housekeep io.env).judgeLinks setup io.ccNow).pendingReload io.dial =
      l.pendingReload io.dial := by
  rw [pendingReload, (judged_frame setup l io).2.1, pendingReload]

/-- The ids that a tick dials are those that its reload dials. -/
theorem fresh_judged {io : TickIo} {env : ReloadEnv}
    (fresh : EachStep (Sender.step setup.toExternals) (fun s e => s.drawsFreshIds e = true) l.sender
      (l.tickEvents setup io))
    (reload : l.pendingReload io.dial = some env) :
    ((l.housekeep io.env).judgeLinks setup io.ccNow).sender.drawsFreshIds (.reload env) = true := by
  rw [tickEvents, reload] at fresh
  rw [judged_sender]
  exact fresh.2.2.1

theorem attended_ticked (attended : l.sender.Attended l.tasks) (io : TickIo)
    (fresh : EachStep (Sender.step setup.toExternals) (fun s e => s.drawsFreshIds e = true) l.sender
      (l.tickEvents setup io)) :
    (l.ticked setup io).syncReaders.sender.Attended (l.ticked setup io).syncReaders.tasks := by
  have judged := attended_judged setup attended io
  have applied : (l.ticked setup io).sender.Attended (l.ticked setup io).tasks := by
    unfold ticked
    cases reload : l.pendingReload io.dial with
    | none =>
      obtain ⟨sender, tasks⟩ := applyPending_none ((pendingReload_judged io).trans reload)
      rw [sender, tasks]
      exact judged
    | some env =>
      obtain ⟨sender, tasks⟩ := applyPending_some ((pendingReload_judged io).trans reload)
      rw [sender, tasks]
      exact judged.reload (fresh_judged fresh reload)
  exact ⟨applied.distinct, applied.io, applied.manned.syncReaders⟩

theorem attended_step (attended : l.sender.Attended l.tasks) (e : LoopEvent)
    (fresh : EachStep (Sender.step setup.toExternals) (fun s e => s.drawsFreshIds e = true) l.sender
      (l.ran setup e)) :
    (l.step setup e).sender.Attended (l.step setup e).tasks := by
  cases alive : l.running with
  | false =>
    rw [step, alive]
    exact attended
  | true =>
    rw [ran, if_pos alive] at fresh
    rw [step, if_pos alive]
    cases e with
    | queued packet => exact attended
    | readerEnded connId => exact ⟨attended.distinct, attended.io, attended.manned.readerEnded connId⟩
    | terminate => exact attended
    | flush sends now =>
      exact attended.run setup.toExternals [.flush sends now] fun env => by simp
    -- a datagram of the client changes no task, and neither do the packets drained after it
    | client received sends config criticalWindow now drain =>
      refine attended_drain ?_ _ drain
      obtain ⟨sender, -, -⟩ := receiveClient_eq setup l received sends
        (config.snapshot l.sender.negotiatedLatencyMs) criticalWindow now
      have tasks : (l.receiveClient setup received sends
          (config.snapshot l.sender.negotiatedLatencyMs) criticalWindow now).tasks = l.tasks := by
        cases received with
        | none => rfl
        | some r => rfl
      rw [sender, tasks]
      refine attended.run _ _ fun env => ?_
      cases received with
      | none => simp
      | some r => simp
    | uplink config drain =>
      simp only [branch, handleUplink]
      split
      · exact attended
      case h_2 packet rx waiting =>
        refine attended_drain ?_ _ _
        exact attended.run setup.toExternals
          [.uplink packet.connId packet.bytes ((drain 0).env config.schedulingMode.isClassic)]
          fun env => by simp
    | hangup file config drain =>
      refine attended_drain ?_ _ drain
      obtain ⟨sender, -, -⟩ := queueReload_frame setup l file
      have tasks : (l.queueReload setup file).tasks = l.tasks := by
        unfold queueReload
        split
        · rfl
        · rfl
      rw [sender, tasks]
      exact attended
    | tick io => exact attended_drain (attended_ticked attended io ((eachStep_append ..).mp fresh).1) _ io.drain

theorem attended_run (attended : l.sender.Attended l.tasks) {es : List LoopEvent}
    (fresh : EachStep (Sender.step setup.toExternals) (fun s e => s.drawsFreshIds e = true) l.sender
      (l.ranBy setup es)) :
    (run (step setup) l es).sender.Attended (run (step setup) l es).tasks := by
  induction es generalizing l with
  | nil => exact attended
  | cons e es ih =>
    rw [ranBy_cons] at fresh
    obtain ⟨now, later⟩ := (eachStep_append ..).mp fresh
    rw [← (step_eq setup l e).1] at later
    exact ih (attended_step attended e now) later

/-- The pass of the tick found the link alive, if it is not a new one. -/
def FoundAlive (l : SenderLoop) (io : TickIo) (connId : Nat) : Prop :=
  ∀ c ∈ (l.sender.beginHousekeeping io.env).conns, c.connId = connId → c.isTimedOut io.env.now = false

instance (l : SenderLoop) (io : TickIo) (connId : Nat) : Decidable (l.FoundAlive io connId) :=
  inferInstanceAs (Decidable (∀ c ∈ _, _ → _))

/-- After a tick the links that it found alive and those that it added have their readers. -/
theorem reads_tick (attended : l.sender.Attended l.tasks) (alive : l.running = true) {io : TickIo}
    {id : Nat} (member : id ∈ (l.step setup (.tick io)).sender.conns.map (·.connId))
    (found : l.FoundAlive io id) : (l.step setup (.tick io)).tasks.Reads id := by
  have judged := attended_judged setup attended io
  -- the pass has seen to the links that there were before
  have passed : id ∈ ((l.housekeep io.env).judgeLinks setup io.ccNow).sender.conns.map (·.connId) →
      ((l.housekeep io.env).judgeLinks setup io.ccNow).tasks.Reads id := by
    intro present
    rw [judged_sender, (Sender.io_run setup.toExternals fun env => by simp).1,
      ← (Sender.sameBond_beginHousekeeping io.env l.sender).uplinks.connIds] at present
    obtain ⟨c, inside, rfl⟩ := List.mem_map.mp present
    rw [tasks_judged]
    exact Sender.reads_housekeepWithTasks attended.manned attended.io inside (found c inside rfl)
  rw [step, if_pos alive] at member ⊢
  simp only [branch, handleTick, drainPacketQueue_eq] at member ⊢
  rw [(Sender.io_run setup.toExternals fun env => reload_not_mem_drainEvents _ _ _ env).1] at member
  change id ∈ (l.ticked setup io).sender.conns.map (·.connId) at member
  change ((l.ticked setup io).tasks.syncReaders
    ((l.ticked setup io).sender.conns.map (·.connId))).Reads id
  refine UplinkTasks.reads_syncReaders member (Or.inl ?_)
  unfold ticked at member ⊢
  cases reload : l.pendingReload io.dial with
  | none =>
    obtain ⟨sender, tasks⟩ := applyPending_none ((pendingReload_judged io).trans reload)
    rw [sender] at member
    rw [tasks]
    exact passed member
  | some env =>
    obtain ⟨sender, tasks⟩ := applyPending_some ((pendingReload_judged io).trans reload)
    rw [sender] at member
    rw [tasks]
    exact Sender.reads_reloadTasks judged.manned member passed

end Step

end SenderLoop

namespace Sample

/-- A reload adds a second uplink, whose socket a later tick opens anew; then its reader ends. -/
def deadReader : List LoopEvent :=
  [hangup twoUplinks 900, tick 1500, tick 10000, .readerEnded 0x0a000002]

end Sample

namespace SenderLoop

/-! ### Results -/

/-- From startup on, whatever the order of the branches: sockets, readers and I/O entries are
those of the present uplinks, no socket belongs to two of them, and each reader reads the
present socket of its uplink. A tick leaves no dead reader to a link that it found alive. -/
theorem readers_follow_uplinks (setup : LoopSetup) (file : Option (List Char))
    (dial : Nat → IpAddr → Option Dialed) (id probeId : SrtlaId) (config : DynamicConfig) (now : Nat)
    (pass : HousekeepingEnv) (l : SenderLoop) (initial : List IpAddr × List Nat)
    (started : startup setup file dial id probeId config now pass = some l)
    (listed : usableList setup file = some initial)
    (draws : (initial.1.zipIdx.filterMap fun entry => (dial entry.2 entry.1).map (·.connId)).Nodup)
    (es : List LoopEvent)
    (fresh : EachStep (Sender.step setup.toExternals) (fun s e => s.drawsFreshIds e = true) l.sender
      (l.ranBy setup es)) :
    (run (step setup) l es).sender.Attended (run (step setup) l es).tasks ∧
    ∀ before io, es = before ++ [.tick io] → (run (step setup) l before).running = true →
      ∀ c ∈ (run (step setup) l es).sender.conns,
        (run (step setup) l before).FoundAlive io c.connId →
          (run (step setup) l es).tasks.Reads c.connId := by
  obtain ⟨list, start, read, begun, rfl⟩ := startup_eq started
  obtain rfl := Option.some.inj (listed.symm.trans read)
  have entered : (enter start pass config).sender.Attended (enter start pass config).tasks :=
    (Sender.attended_startup begun draws).housekeep _
  refine ⟨attended_run entered fresh, ?_⟩
  rintro before io rfl alive c member found
  rw [ranBy_append] at fresh
  have reached := attended_run entered ((eachStep_append ..).mp fresh).1
  rw [run_append, run_cons, run_nil] at member ⊢
  exact reads_tick reached alive (List.mem_map_of_mem member) found

/-- The next tick replaces the dead reader by one for the present socket of the uplink, and
leaves the other uplink its reader. -/
theorem readers_follow_uplinks_sample :
    ∃ l, Sample.loop = some l ∧
      (run (step Sample.setup) l (Sample.deadReader.take 2)).tasks.readers.lookup 0x0a000002 =
        some ⟨1, false⟩ ∧
      (run (step Sample.setup) l Sample.deadReader).tasks.readers.lookup 0x0a000002 =
        some ⟨2, true⟩ ∧
      (run (step Sample.setup) l (Sample.deadReader ++ [Sample.tick 10500])).sender.Attended
        (run (step Sample.setup) l (Sample.deadReader ++ [Sample.tick 10500])).tasks ∧
      ∀ id ∈ [1, 0x0a000002],
        (run (step Sample.setup) l (Sample.deadReader ++ [Sample.tick 10500])).tasks.Reads id := by
  obtain ⟨l, started⟩ := Option.isSome_iff_exists.mp
    (show Sample.loop.isSome = true by decide +kernel)
  have same : l = Sample.loop.get (by decide +kernel) := by simp only [started, Option.get_some]
  have fresh : EachStep (Sender.step Sample.setup.toExternals) (fun s e => s.drawsFreshIds e = true)
      l.sender (l.ranBy Sample.setup (Sample.deadReader ++ [Sample.tick 10500])) := by
    rw [same]
    decide +kernel
  have opened : (run (step Sample.setup) l (Sample.deadReader.take 2)).tasks.readers.lookup 0x0a000002 =
      some ⟨1, false⟩ := by
    rw [same]
    decide +kernel
  have ended : (run (step Sample.setup) l Sample.deadReader).tasks.readers.lookup 0x0a000002 =
      some ⟨2, true⟩ := by
    rw [same]
    decide +kernel
  have alive : (run (step Sample.setup) l Sample.deadReader).running = true := by
    rw [same]
    decide +kernel
  obtain ⟨attended, reads⟩ := readers_follow_uplinks Sample.setup (some Sample.oneUplink)
    (fun i _ => some ⟨i + 1, Sample.receiver, 500⟩) (Sample.groupId 1) (Sample.groupId 2) .new 500
    (Sample.pass 500 []) l ([.v4 0x0a000001], [1]) started (by decide +kernel) (by decide) _ fresh
  refine ⟨l, started, opened, ended, attended, fun id member => ?_⟩
  obtain ⟨c, present, rfl⟩ : ∃ c ∈ (run (step Sample.setup) l
      (Sample.deadReader ++ [Sample.tick 10500])).sender.conns, c.connId = id := by
    revert id
    rw [same]
    decide +kernel
  have found : (run (step Sample.setup) l Sample.deadReader).FoundAlive (Sample.tickIo 10500)
      c.connId := by
    generalize c.connId = id at member
    revert id
    rw [same]
    decide +kernel
  exact reads Sample.deadReader _ rfl alive c present found

end SenderLoop

end SrtlaSend
