import SrtlaSend.Properties.ControlProtocol

/-!
# Subscriptions

What holds of the hub whatever the order in which connections and publishers get to it. A
subscription belongs to one connection and dies with it, so that no event is ever offered to
a connection that is gone and no publisher finds anything to clean up. Each event goes once
to each subscription of its topic, in the order of publication, and is lost only when too many
others wait already.
-/

namespace SrtlaSend

open Runs

/-! ### Ids -/

theorem subscriptionId_injective : Function.Injective subscriptionId := by
  intro n m same
  have digits : Nat.toDigits 10 n = Nat.toDigits 10 m := by
    have text := (String.append_right_inj _).mp same
    have chars := congrArg String.toList text
    rwa [Nat.toString_eq_repr, Nat.toString_eq_repr, Nat.toList_repr, Nat.toList_repr] at chars
  have back := congrArg (fun digits => Nat.ofDigitChars 10 digits 0) digits
  simpa only [Nat.ofDigitChars_toDigits (by omega : 1 < 10) (by omega : 10 ≤ 10)] using back

/-- The id that a connection has drawn and not yet registered. -/
def Session.drawnId (s : Session) : Option String :=
  match s.phase with
  | .waiting (.subscribe id _) _ => some id
  | _ => none

namespace ControlPlane

/-- The hub and the connections agree. -/
structure HubWf (p : ControlPlane) : Prop where
  distinct : (p.hub.entries.map (·.id)).Nodup
  drawn : ∀ e ∈ p.hub.entries, ∃ n < p.hub.nextId, e.id = subscriptionId n
  /-- Every subscription belongs to a connection that is not gone. -/
  owned : ∀ e ∈ p.hub.entries, ∃ s, p.sessions[e.sender]? = some s ∧ s.phase ≠ .gone ∧ e.id ∈ s.ownedIds
  pending : ∀ (conn : Nat) (s : Session) (id : String), p.sessions[conn]? = some s → s.drawnId = some id →
    (∃ n < p.hub.nextId, id = subscriptionId n) ∧ ∀ e ∈ p.hub.entries, e.id ≠ id
  apart : ∀ (conn conn' : Nat) (s s' : Session) (id : String), p.sessions[conn]? = some s →
    p.sessions[conn']? = some s' → s.drawnId = some id → s'.drawnId = some id → conn = conn'
  /-- A channel closes when the task is gone. -/
  channels : ∀ (conn : Nat) (s : Session), p.sessions[conn]? = some s → s.channel.closed = true →
    s.phase = .gone
  /-- A publisher finds no closed channel. -/
  fanOut : ∀ fan, p.fanOut = some fan → fan.toPrune = [] ∧ fan.rest <:+ p.hub.entries
  prunes : p.prunes = []

section Wf

variable {fromStr : List Char → Except String Request} {p : ControlPlane} {conn : Nat}
  {s s' : Session}

theorem hubWf_init (config : DynamicConfig) : HubWf { config } where
  distinct := List.nodup_nil
  drawn e member := absurd member List.not_mem_nil
  owned e member := absurd member List.not_mem_nil
  pending conn s id found := by simp at found
  apart conn conn' s s' id found := by simp at found
  channels conn s found := by simp at found
  fanOut fan found := by cases found
  prunes := rfl

theorem HubWf.withConfig (wf : HubWf p) (config : DynamicConfig) : HubWf { p with config } :=
  ⟨wf.distinct, wf.drawn, wf.owned, wf.pending, wf.apart, wf.channels, wf.fanOut, wf.prunes⟩

/-- An owner stays the owner if a write to its session lets it keep the entry. -/
theorem owner_setSession {c : Nat} {id : String} (found : p.sessions[conn]? = some s)
    (owner : ∃ t, p.sessions[c]? = some t ∧ t.phase ≠ .gone ∧ id ∈ t.ownedIds)
    (keeps : s.phase ≠ .gone → id ∈ s.ownedIds → s'.phase ≠ .gone ∧ id ∈ s'.ownedIds) :
    ∃ t, (p.setSession conn s').sessions[c]? = some t ∧ t.phase ≠ .gone ∧ id ∈ t.ownedIds := by
  obtain ⟨t, at_c, there, owns⟩ := owner
  by_cases here : conn = c
  · subst here
    obtain rfl := Option.some.inj (at_c.symm.trans found)
    exact ⟨s', setSession_same found _, keeps there owns⟩
  · exact ⟨t, (setSession_other here _).trans at_c, there, owns⟩

/-- A connection moves on, and neither draws an id nor changes what it owns. -/
theorem HubWf.setSession (wf : HubWf p) (found : p.sessions[conn]? = some s)
    (drawn : ∀ id, s'.drawnId = some id → s.drawnId = some id) (owned : s'.ownedIds = s.ownedIds)
    (present : s'.phase = .gone → s.phase = .gone ∨ s.ownedIds = [])
    (channel : s'.channel.closed = true → s'.phase = .gone) : HubWf (p.setSession conn s') := by
  -- whoever holds a drawn id now held it before
  have before (c : Nat) (t : Session) (id : String)
      (at_c : (p.setSession conn s').sessions[c]? = some t) (draws : t.drawnId = some id) :
      ∃ t₀, p.sessions[c]? = some t₀ ∧ t₀.drawnId = some id := by
    rcases setSession_cases at_c with ⟨rfl, rfl⟩ | ⟨-, at_c⟩
    · exact ⟨s, found, drawn id draws⟩
    · exact ⟨t, at_c, draws⟩
  refine ⟨wf.distinct, wf.drawn, fun e member => ?_, fun c t id at_c draws => ?_,
    fun c c' t t' id at_c at_c' draws draws' => ?_, fun c t at_c closed => ?_, wf.fanOut, wf.prunes⟩
  · refine owner_setSession found (wf.owned e member) fun there owns => ⟨fun gone => ?_, by rwa [owned]⟩
    rcases present gone with already | nothing
    · exact there already
    · rw [nothing] at owns
      exact absurd owns List.not_mem_nil
  · obtain ⟨u, at_u, draws_u⟩ := before c t id at_c draws
    exact wf.pending c u id at_u draws_u
  · obtain ⟨u, at_u, draws_u⟩ := before c t id at_c draws
    obtain ⟨u', at_u', draws_u'⟩ := before c' t' id at_c' draws'
    exact wf.apart c c' u u' id at_u at_u' draws_u draws_u'
  · rcases setSession_cases at_c with ⟨rfl, rfl⟩ | ⟨-, at_c⟩
    · exact channel closed
    · exact wf.channels c t at_c closed

/-- A connection that is there has an open channel. -/
theorem HubWf.channel_open (wf : HubWf p) (found : p.sessions[conn]? = some s)
    (there : s.phase ≠ .gone) : s.channel.closed = false := by
  rw [← Bool.not_eq_true]
  exact fun closed => there (wf.channels conn s found closed)

/-- A connection draws an id. -/
theorem HubWf.draw (wf : HubWf p) (found : p.sessions[conn]? = some s) (topic : String)
    (id : Option Json) (there : s.phase ≠ .gone) :
    HubWf ({ p with hub := p.hub.drawId.1 }.setSession conn
      { s with phase := .waiting (.subscribe p.hub.drawId.2 topic) id }) := by
  have new : ∀ n < p.hub.nextId, p.hub.drawId.2 ≠ subscriptionId n := by
    intro n below same
    have := subscriptionId_injective same
    omega
  -- a drawn id is the new one of this connection, or was drawn before
  have waits (c : Nat) (t : Session) (drawn : String) (draws : t.drawnId = some drawn)
      (at_c : ({ p with hub := p.hub.drawId.1 }.setSession conn
        { s with phase := .waiting (.subscribe p.hub.drawId.2 topic) id }).sessions[c]? = some t) :
      (c = conn ∧ drawn = p.hub.drawId.2) ∨ (p.sessions[c]? = some t ∧ ∃ n < p.hub.nextId,
        drawn = subscriptionId n) := by
    rcases setSession_cases at_c with ⟨here, rfl⟩ | ⟨-, at_c⟩
    · exact Or.inl ⟨here, (Option.some.inj draws).symm⟩
    · exact Or.inr ⟨at_c, (wf.pending c t drawn at_c draws).1⟩
  refine ⟨wf.distinct, fun e member => ?_, fun e member => ?_, fun c t drawn at_c draws => ?_,
    fun c c' t t' drawn at_c at_c' draws draws' => ?_, fun c t at_c closed => ?_, wf.fanOut, wf.prunes⟩
  · obtain ⟨n, below, same⟩ := wf.drawn e member
    exact ⟨n, Nat.lt_succ_of_lt below, same⟩
  · exact owner_setSession (p := { p with hub := _ }) found (wf.owned e member) fun _ owns =>
      ⟨by simp, owns⟩
  · rcases waits c t drawn draws at_c with ⟨-, rfl⟩ | ⟨at_c, n, below, same⟩
    · refine ⟨⟨p.hub.nextId, Nat.lt_succ_self _, rfl⟩, fun e member same => ?_⟩
      obtain ⟨n, below, named⟩ := wf.drawn e member
      exact new n below (same.symm.trans named)
    · exact ⟨⟨n, Nat.lt_succ_of_lt below, same⟩, (wf.pending c t drawn at_c draws).2⟩
  · rcases waits c t drawn draws at_c with ⟨rfl, rfl⟩ | ⟨at_c, n, below, same⟩
    · rcases waits c' t' _ draws' at_c' with ⟨rfl, -⟩ | ⟨-, n, below, same⟩
      · rfl
      · exact absurd same (new n below)
    · rcases waits c' t' drawn draws' at_c' with ⟨-, rfl⟩ | ⟨at_c', -⟩
      · exact absurd same (new n below)
      · exact wf.apart c c' t t' drawn at_c at_c' draws draws'
  · rcases setSession_cases at_c with ⟨rfl, rfl⟩ | ⟨-, at_c⟩
    · exact absurd closed (by rw [wf.channel_open found there]; exact Bool.false_ne_true)
    · exact wf.channels c t at_c closed

/-- A connection that has drawn an id registers its subscription. -/
theorem HubWf.register (wf : HubWf p) (found : p.sessions[conn]? = some s) (free : p.fanOut = none)
    {id topic : String} (draws : s.drawnId = some id) (phase : SessionPhase)
    (moves : Session.drawnId { s with phase } = none) (there : phase ≠ .gone) (alive : s.phase ≠ .gone) :
    HubWf ({ p with hub := p.hub.register { id, topic, sender := conn } }.setSession conn
      { s with phase, ownedIds := s.ownedIds ++ [id] }) := by
  -- the id was drawn before, and no entry has it yet
  obtain ⟨⟨n, below, named⟩, fresh⟩ := wf.pending conn s id found draws
  have idle : Session.drawnId { s with phase, ownedIds := s.ownedIds ++ [id] } = none := moves
  refine ⟨?_, fun e member => ?_, fun e member => ?_, fun c t drawn at_c draws' => ?_,
    fun c c' t t' drawn at_c at_c' draws draws' => ?_, fun c t at_c closed => ?_,
    fun fan impossible => ?_, wf.prunes⟩
  · change ((p.hub.entries ++ [({ id, topic, sender := conn } : Entry)]).map (·.id)).Nodup
    rw [List.map_append, List.nodup_append]
    refine ⟨wf.distinct, List.nodup_singleton _, fun old member new single => ?_⟩
    obtain ⟨e, inside, rfl⟩ := List.mem_map.mp member
    rw [List.map_singleton, List.mem_singleton] at single
    rw [single]
    exact fresh e inside
  · rcases List.mem_append.mp member with old | new
    · exact wf.drawn e old
    · rw [List.mem_singleton.mp new]
      exact ⟨n, below, named⟩
  · rcases List.mem_append.mp member with old | new
    · exact owner_setSession (p := { p with hub := _ }) found (wf.owned e old) fun _ owns =>
        ⟨there, List.mem_append_left _ owns⟩
    · rw [List.mem_singleton.mp new]
      exact ⟨_, setSession_same (p := { p with hub := _ }) found _, there,
        List.mem_append_right _ List.mem_cons_self⟩
  · rcases setSession_cases at_c with ⟨rfl, rfl⟩ | ⟨other, at_c⟩
    · rw [idle] at draws'
      cases draws'
    · obtain ⟨named, fresh'⟩ := wf.pending c t drawn at_c draws'
      refine ⟨named, fun e member => ?_⟩
      rcases List.mem_append.mp member with old | new
      · exact fresh' e old
      · rw [List.mem_singleton.mp new]
        rintro rfl
        exact other (wf.apart c conn t s _ at_c found draws' draws)
  · rcases setSession_cases at_c with ⟨rfl, rfl⟩ | ⟨-, at_c⟩
    · rw [idle] at draws
      cases draws
    · rcases setSession_cases at_c' with ⟨rfl, rfl⟩ | ⟨-, at_c'⟩
      · rw [idle] at draws'
        cases draws'
      · exact wf.apart c c' t t' drawn at_c at_c' draws draws'
  · rcases setSession_cases at_c with ⟨rfl, rfl⟩ | ⟨-, at_c⟩
    · exact absurd closed (by rw [wf.channel_open found alive]; exact Bool.false_ne_true)
    · exact wf.channels c t at_c closed
  · rw [show p.fanOut = some fan from impossible] at free
    cases free

/-- A subscription is given up. -/
theorem HubWf.unsubscribe (wf : HubWf p) (found : p.sessions[conn]? = some s) (free : p.fanOut = none)
    (id : String) (drawn : s'.drawnId = none) (there : s'.phase ≠ .gone)
    (channel : s'.channel = s.channel) (alive : s.phase ≠ .gone)
    (owned : ∀ x ∈ s.ownedIds, x ≠ id → x ∈ s'.ownedIds) :
    HubWf ({ p with hub := (p.hub.unsubscribe id).1 }.setSession conn s') := by
  -- what is left was there, under another id
  have remains : ∀ e ∈ (p.hub.unsubscribe id).1.entries, e ∈ p.hub.entries ∧ e.id ≠ id := by
    intro e member
    simpa [SubscriptionHub.unsubscribe] using member
  refine ⟨?_, fun e member => ?_, fun e member => ?_, fun c t id' at_c draws => ?_,
    fun c c' t t' id' at_c at_c' draws draws' => ?_, fun c t at_c closed => ?_,
    fun fan impossible => ?_, wf.prunes⟩
  · exact (List.filter_sublist.map _).nodup wf.distinct
  · exact wf.drawn e (remains e member).1
  · obtain ⟨old, stays⟩ := remains e member
    exact owner_setSession (p := { p with hub := _ }) found (wf.owned e old) fun _ owns =>
      ⟨there, owned _ owns stays⟩
  · rcases setSession_cases at_c with ⟨rfl, rfl⟩ | ⟨-, at_c⟩
    · rw [drawn] at draws
      cases draws
    · obtain ⟨named, fresh⟩ := wf.pending c t id' at_c draws
      exact ⟨named, fun e member => fresh e (remains e member).1⟩
  · rcases setSession_cases at_c with ⟨rfl, rfl⟩ | ⟨-, at_c⟩
    · rw [drawn] at draws
      cases draws
    · rcases setSession_cases at_c' with ⟨rfl, rfl⟩ | ⟨-, at_c'⟩
      · rw [drawn] at draws'
        cases draws'
      · exact wf.apart c c' t t' id' at_c at_c' draws draws'
  · rcases setSession_cases at_c with ⟨rfl, rfl⟩ | ⟨-, at_c⟩
    · rw [channel, wf.channel_open found alive] at closed
      cases closed
    · exact wf.channels c t at_c closed
  · rw [show p.fanOut = some fan from impossible] at free
    cases free

theorem HubWf.accept (wf : HubWf p) : HubWf p.accept := by
  have cases_of (c : Nat) (t : Session) (at_c : p.accept.sessions[c]? = some t) :
      p.sessions[c]? = some t ∨ t = {} := by
    rcases Nat.lt_or_ge c p.sessions.length with inside | beyond
    · left
      rwa [ControlPlane.accept, List.getElem?_append_left inside] at at_c
    · right
      rw [ControlPlane.accept, List.getElem?_append_right beyond] at at_c
      exact List.mem_singleton.mp (List.mem_of_getElem? at_c)
  refine ⟨wf.distinct, wf.drawn, fun e member => ?_, fun c t id at_c draws => ?_,
    fun c c' t t' id at_c at_c' draws draws' => ?_, fun c t at_c closed => ?_, wf.fanOut, wf.prunes⟩
  · obtain ⟨t, at_sender, there, owns⟩ := wf.owned e member
    have inside : e.sender < p.sessions.length := (List.getElem?_eq_some_iff.mp at_sender).1
    exact ⟨t, (List.getElem?_append_left inside).trans at_sender, there, owns⟩
  · rcases cases_of c t at_c with old | rfl
    · exact wf.pending c t id old draws
    · cases draws
  · rcases cases_of c t at_c with old | rfl
    · rcases cases_of c' t' at_c' with old' | rfl
      · exact wf.apart c c' t t' id old old' draws draws'
      · cases draws'
    · cases draws
  · rcases cases_of c t at_c with old | rfl
    · exact wf.channels c t old closed
    · cases closed

theorem HubWf.readLine (wf : HubWf p) (text : Option (List Char)) (view : StatusView) :
    HubWf (p.readLine fromStr conn text view) := by
  unfold ControlPlane.readLine
  split
  · exact wf
  case h_2 s found =>
    split
    case h_2 => exact wf
    case h_1 selecting =>
      have there : s.phase ≠ .gone := by simp [selecting]
      have openly := wf.channel_open found there
      split
      · exact wf.setSession found (fun id draws => (by cases draws)) rfl (fun gone => (by cases gone))
          fun closed => absurd (openly.symm.trans closed) Bool.false_ne_true
      case h_2 text =>
        obtain ⟨-, routed⟩ := routeAsync_eq fromStr p.config view p.hub text
        rcases route : routeAsync fromStr p.config view p.hub text with ⟨config, hub, routedTo⟩
        rw [route] at routed
        -- the calls that draw no id
        have waits (call : HubCall) (id : Option Json)
            (draws : Session.drawnId { s with phase := .waiting call id } = none) :
            HubWf ({ p with config }.setSession conn { s with phase := .waiting call id }) :=
          (wf.withConfig config).setSession found (fun id' draws' => (by rw [draws] at draws'; cases draws'))
            rfl (fun gone => (by cases gone)) fun closed => absurd (openly.symm.trans closed) Bool.false_ne_true
        rcases routed with ⟨response, same, -⟩ | ⟨topic, -, -, same⟩ | ⟨sub, -, same⟩ | ⟨-, same⟩
        · obtain ⟨rfl, rfl⟩ := Prod.mk.inj same
          cases response with
          | none => exact wf.withConfig config
          | some response =>
            exact (wf.withConfig config).setSession found (fun id draws => (by cases draws)) rfl
              (fun gone => (by cases gone)) fun closed => absurd (openly.symm.trans closed) Bool.false_ne_true
        · obtain ⟨rfl, rfl⟩ := Prod.mk.inj same
          exact (wf.withConfig config).draw found topic _ there
        · obtain ⟨rfl, rfl⟩ := Prod.mk.inj same
          exact waits _ _ rfl
        · obtain ⟨rfl, rfl⟩ := Prod.mk.inj same
          exact waits _ _ rfl

theorem HubWf.acquire (wf : HubWf p) : HubWf (p.acquire conn) := by
  unfold ControlPlane.acquire
  split
  · exact wf
  case isFalse taken =>
    have free : p.fanOut = none := by simpa using taken
    split
    · exact wf
    case h_2 s found =>
      split
      case h_1 call id waits =>
        have there : s.phase ≠ .gone := by simp [waits]
        have moves (response : Option Response) : SessionPhase.after response ≠ .gone ∧
            ∀ t : Session, t.phase = .after response → t.drawnId = none := by
          cases response with
          | none => exact ⟨by simp [SessionPhase.after], fun t same => by simp [Session.drawnId, same, SessionPhase.after]⟩
          | some response =>
            exact ⟨by simp [SessionPhase.after], fun t same => by simp [Session.drawnId, same, SessionPhase.after]⟩
        cases call with
        | subscribe sub topic =>
          exact wf.register found free (by simp [Session.drawnId, waits]) _ ((moves _).2 _ rfl) (moves _).1 there
        | unsubscribe sub =>
          refine wf.unsubscribe found free sub ((moves _).2 _ rfl) (moves _).1 rfl there
            fun x owns other => ?_
          exact List.mem_filter.mpr ⟨owns, by simpa using other⟩
        | count =>
          refine wf.setSession found (fun id draws => ?_) rfl (fun gone => absurd gone (moves _).1)
            fun closed => absurd (wf.channels conn s found closed) there
          exact absurd draws (by rw [(moves _).2 _ rfl]; simp)
      -- a connection that closes gives up its subscriptions one by one
      case h_2 closes =>
        have there : s.phase ≠ .gone := by simp [closes]
        split
        case h_1 id ownedIds owns =>
          refine wf.unsubscribe found free id (by simp [Session.drawnId, closes]) there rfl there
            fun x member other => ?_
          rw [owns] at member
          exact (List.mem_cons.mp member).resolve_left other
        case h_2 => exact wf
      case h_3 => exact wf

/-- A publisher looks at the next subscription, and its channel is open. -/
theorem HubWf.offer (wf : HubWf p) : HubWf p.offer := by
  cases fanned : p.fanOut with
  | none =>
    simp only [ControlPlane.offer, fanned]
    exact wf
  | some fan =>
    obtain ⟨clean, suffix⟩ := wf.fanOut fan fanned
    cases looks : fan.rest with
    | nil =>
      simp only [ControlPlane.offer, fanned, looks]
      exact wf
    | cons entry rest =>
      have later : rest <:+ p.hub.entries := (List.suffix_cons entry rest).trans (looks ▸ suffix)
      have onward (toPrune : List String) (nothing : toPrune = []) :
          HubWf { p with fanOut := some { fan with rest, toPrune } } :=
        ⟨wf.distinct, wf.drawn, wf.owned, wf.pending, wf.apart, wf.channels,
          fun fan' same => (by obtain rfl := Option.some.inj same; exact ⟨nothing, later⟩), wf.prunes⟩
      have member : entry ∈ p.hub.entries := suffix.subset (looks ▸ List.mem_cons_self)
      obtain ⟨s, found, there, -⟩ := wf.owned entry member
      -- the owner is there, so its channel is open and there is nothing to prune
      have openly := wf.channel_open found there
      simp only [ControlPlane.offer, fanned, looks, found]
      split
      · rcases s.channel.trySend_cases ⟨fan.topic, entry.id, fan.data⟩ with ⟨closed, -⟩ | ⟨-, -, sent⟩ |
          ⟨-, -, result, -, stays⟩
        · rw [openly] at closed
          cases closed
        · rw [sent]
          refine (onward _ (by simpa using clean)).setSession found (fun id draws => draws) rfl
            (fun gone => Or.inl gone) fun closed => ?_
          exact absurd (openly.symm.trans closed) Bool.false_ne_true
        · refine (onward _ (by simpa [result] using clean)).setSession found (fun id draws => draws) rfl
            (fun gone => Or.inl gone) fun closed => ?_
          rw [stays] at closed
          cases closed
      · exact onward _ clean

/-- Whatever happens next, hub and connections go on agreeing. -/
theorem HubWf.step (wf : HubWf p) (e : ControlEvent) : HubWf (p.step fromStr e) := by
  cases e with
  | accept => exact wf.accept
  | line conn text view => exact wf.readLine text view
  | takePush conn =>
    simp only [ControlPlane.step, ControlPlane.takePush]
    split
    · exact wf
    case h_2 s found =>
      split
      case h_2 => exact wf
      case h_1 selecting =>
        split
        case h_2 => exact wf
        case h_1 push channel taken =>
          refine wf.setSession found (fun id draws => (by cases draws)) rfl (fun gone => (by cases gone))
            fun closed => ?_
          have openly := wf.channel_open found (by simp [selecting])
          rw [(Channel.recv_eq_some taken).2, openly] at closed
          cases closed
  | acquire conn => exact wf.acquire
  | written conn ok =>
    simp only [ControlPlane.step, ControlPlane.written]
    split
    · exact wf
    case h_2 s found =>
      split
      case h_2 => exact wf
      case h_1 line writes =>
        have openly := wf.channel_open found (by simp [writes])
        cases ok with
        | true =>
          exact wf.setSession found (fun id draws => (by cases draws)) rfl (fun gone => (by cases gone))
            fun closed => absurd (openly.symm.trans closed) Bool.false_ne_true
        | false =>
          exact wf.setSession found (fun id draws => (by cases draws)) rfl (fun gone => (by cases gone))
            fun closed => absurd (openly.symm.trans closed) Bool.false_ne_true
  | leave conn =>
    simp only [ControlPlane.step, ControlPlane.leave]
    split
    · exact wf
    case h_2 s found =>
      split
      case h_2 => exact wf
      -- the channel closes with no subscription left
      case h_1 closes owns =>
        exact wf.setSession found (fun id draws => (by cases draws)) rfl (fun _ => Or.inr owns) fun _ => rfl
  | publish topic data =>
    simp only [ControlPlane.step, ControlPlane.publish]
    split
    · exact wf
    · exact ⟨wf.distinct, wf.drawn, wf.owned, wf.pending, wf.apart, wf.channels,
        fun fan same => (by obtain rfl := Option.some.inj same; exact ⟨rfl, List.suffix_refl _⟩), wf.prunes⟩
  | offer => exact wf.offer
  | release =>
    simp only [ControlPlane.step, ControlPlane.release]
    split
    · exact wf
    case h_2 fan fanned =>
      split
      · refine ⟨wf.distinct, wf.drawn, wf.owned, wf.pending, wf.apart, wf.channels,
          fun fan' impossible => (by cases impossible), ?_⟩
        simp [(wf.fanOut fan fanned).1, wf.prunes]
      · exact wf
  | prune i =>
    simp only [ControlPlane.step, ControlPlane.prune, wf.prunes]
    split
    case h_1 found => simp at found
    case h_2 => exact wf
  | stdin text view => exact wf.withConfig _

theorem hubWf_run (fromStr : List Char → Except String Request) (config : DynamicConfig)
    (es : List ControlEvent) : HubWf (run (ControlPlane.step fromStr) { config } es) :=
  run_invariant HubWf (fun _ e wf => wf.step e) (hubWf_init config) es

end Wf

end ControlPlane

/-! ### What a connection is offered -/

/-- The events that a connection has been given: written out, in hand, or waiting. -/
def Session.given (s : Session) : List Push := s.received ++ s.inHand ++ s.channel.queue

section Given

variable {fromStr : List Char → Except String Request} {s s' : Session}

/-- A connection keeps the order of what it is given; while it is served it loses an event only
to a full queue. -/
theorem SessionStep.given {line : Option (List Char)} {push : Option Push}
    (step : SessionStep fromStr s line push s') :
    s'.given.Sublist (s.given ++ push.toList) ∧
      (s'.Up → s.channel.closed = false →
        (∀ offer ∈ push, s.channel.queue.length < pushCapacity) → s'.given = s.given ++ push.toList) := by
  have kept (t : Session) (push : Option Push) (same : t.given = s.given ++ push.toList) :
      t.given.Sublist (s.given ++ push.toList) ∧
        (t.Up → s.channel.closed = false →
          (∀ offer ∈ push, s.channel.queue.length < pushCapacity) →
            t.given = s.given ++ push.toList) :=
    ⟨same ▸ List.Sublist.refl _, fun _ _ _ => same⟩
  cases step with
  | idle => exact kept _ none (by simp)
  | silent text selects unanswered => exact kept _ none (by simp)
  | answer text response selects id =>
    exact kept _ none (by simp [Session.given, Session.received, Session.inHand, selects])
  | wait text call selects =>
    exact kept _ none (by simp [Session.given, Session.received, Session.inHand, selects])
  | hangup selects =>
    exact kept _ none (by simp [Session.given, Session.received, Session.inHand, selects])
  | take push channel selects taken =>
    refine kept _ none ?_
    simp [Session.given, Session.received, Session.inHand, selects, (Channel.recv_eq_some taken).1]
  | served call ownedIds waits =>
    exact kept _ none (by simp [Session.given, Session.received, Session.inHand, waits])
  | replied call id result ownedIds waits =>
    exact kept _ none (by simp [Session.given, Session.received, Session.inHand, waits])
  | wrote line writes =>
    refine kept _ none ?_
    cases line with
    | reply response => simp [Session.given, Session.received, Session.inHand, writes]
    | push push => simp [Session.given, Session.received, Session.inHand, writes]
  -- the event in hand is lost with the connection
  | broke line writes =>
    refine ⟨?_, fun up => absurd rfl up.1⟩
    simp only [Session.given, Session.received, Session.inHand, Option.toList_none, List.append_nil]
    exact (List.sublist_append_left _ _).append_right _
  | gaveUp id ownedIds closes owns =>
    exact kept _ none (by simp [Session.given, Session.received, Session.inHand, closes])
  -- and here what the channel still holds
  | left closes owns =>
    refine ⟨?_, fun up => absurd rfl up.2⟩
    simp only [Session.given, Session.received, Session.inHand, Channel.close, Option.toList_none,
      List.append_nil, closes]
    exact List.sublist_append_left _ _
  | offered push =>
    rcases s.channel.trySend_cases push with ⟨closed, sent⟩ | ⟨-, full, sent⟩ | ⟨-, -, -, queued, -⟩
    · refine ⟨?_, fun _ openly => (by rw [closed] at openly; cases openly)⟩
      rw [sent]
      exact List.sublist_append_left _ _
    · refine ⟨?_, fun _ _ room => absurd (room push rfl) (by rw [full]; exact Nat.lt_irrefl _)⟩
      rw [sent]
      exact List.sublist_append_left _ _
    · exact kept _ (some push) (by
        simp [Session.given, Session.received, Session.inHand, queued])

end Given

namespace ControlPlane

section Offers

variable (fromStr : List Char → Except String Request) (p : ControlPlane) (es : List ControlEvent)
  (conn : Nat) (id : String)

/-- What the connection is offered in a run. -/
def offers : List Push := (history (step fromStr) p es).filterMap fun x => x.1.offeredTo conn x.2

/-- No offer finds the queue of the connection full. -/
def NeverFull : Prop :=
  ∀ x ∈ history (step fromStr) p es, ∀ push ∈ x.1.offeredTo conn x.2, ∀ s ∈ x.1.sessions[conn]?,
    s.channel.queue.length < pushCapacity

/-- The entry is the subscription `id` of the connection, and the topic is its own. -/
def isEntryOf (topic : String) (e : Entry) : Bool :=
  decide (e.id = id) && decide (e.topic = topic) && decide (e.sender = conn)

/-- The event for the subscription that a step publishes, if the subscription is there. -/
def publishedTo (p : ControlPlane) : ControlEvent → Option Push
  | .publish topic data =>
    if p.fanOut.isNone && p.hub.entries.any (isEntryOf conn id topic) then some ⟨topic, id, data⟩ else none
  | _ => none

/-- The events that are published on the topic of the subscription while it is registered. -/
def published : List Push :=
  (history (step fromStr) p es).filterMap fun x => x.1.publishedTo conn id x.2

/-- The event that a publisher still has for the subscription. -/
def pendingFor : List Push :=
  match p.fanOut with
  | some fan => if fan.rest.any (isEntryOf conn id fan.topic) then [⟨fan.topic, id, fan.data⟩] else []
  | none => []

end Offers

section Laws

variable {fromStr : List Char → Except String Request} {p : ControlPlane} {es : List ControlEvent}
  {conn : Nat} {id : String}

/-- Between offers nothing is taken from a publisher. -/
theorem fanOut_step (fromStr : List Char → Except String Request) (p : ControlPlane)
    (e : ControlEvent) :
    (p.step fromStr e).fanOut = p.fanOut ∨ (∃ topic data, e = .publish topic data) ∨ e = .offer ∨
      e = .release := by
  cases e with
  | publish topic data => exact Or.inr (Or.inl ⟨topic, data, rfl⟩)
  | offer => exact Or.inr (Or.inr (Or.inl rfl))
  | release => exact Or.inr (Or.inr (Or.inr rfl))
  | accept => exact Or.inl rfl
  | stdin text view => exact Or.inl rfl
  | line conn text view =>
    obtain ⟨config, own⟩ := readLine_frame fromStr p conn text view
    exact Or.inl own.fanOut
  | takePush conn => exact Or.inl (takePush_frame conn).fanOut
  | acquire conn => exact Or.inl (acquire_frame conn).fanOut
  | written conn ok => exact Or.inl (written_frame conn ok).fanOut
  | leave conn => exact Or.inl (leave_frame conn).fanOut
  | prune i =>
    left
    simp only [step, prune]
    split <;> rfl

/-- An entry whose id comes again is not the subscription. -/
theorem any_isEntryOf_of_nodup {entry : Entry} {rest : List Entry} {topic : String}
    (distinct : ((entry :: rest).map (·.id)).Nodup) (here : isEntryOf conn id topic entry = true) :
    rest.any (isEntryOf conn id topic) = false := by
  rw [List.map_cons, List.nodup_cons] at distinct
  simp only [isEntryOf, Bool.and_eq_true, decide_eq_true_eq] at here
  rw [List.any_eq_false]
  intro e member again
  simp only [isEntryOf, Bool.and_eq_true, decide_eq_true_eq] at again
  refine distinct.1 ?_
  rw [here.1.1, ← again.1.1]
  exact List.mem_map_of_mem member

/-- An offer takes from a publisher what it has for the subscription. -/
theorem offer_law (wf : HubWf p) (conn : Nat) (id : String) :
    (p.offeredTo conn .offer).toList.filter (fun push => push.subscriptionId = id) ++
        p.offer.pendingFor conn id = p.pendingFor conn id := by
  cases fanned : p.fanOut with
  | none => simp [offeredTo, offer, pendingFor, fanned]
  | some fan =>
    cases looks : fan.rest with
    | nil => simp [offeredTo, offer, pendingFor, fanned, looks]
    | cons entry rest =>
      obtain ⟨-, suffix⟩ := wf.fanOut fan fanned
      rw [looks] at suffix
      obtain ⟨s, found, -⟩ := wf.owned entry (suffix.subset List.mem_cons_self)
      have inside : entry.sender < p.sessions.length := (List.getElem?_eq_some_iff.mp found).1
      -- no id stands twice, so the entry is the last of its subscription
      have distinct : ((entry :: rest).map (·.id)).Nodup := (suffix.sublist.map _).nodup wf.distinct
      have after : p.offer.pendingFor conn id =
          if rest.any (isEntryOf conn id fan.topic) then [⟨fan.topic, id, fan.data⟩] else [] := by
        simp only [offer, fanned, looks, found]
        split
        · rfl
        · rfl
      rw [after]
      simp only [offeredTo, pendingFor, fanned, looks, List.any_cons]
      cases here : isEntryOf conn id fan.topic entry with
      | true =>
        rw [any_isEntryOf_of_nodup distinct here]
        simp only [isEntryOf, Bool.and_eq_true, decide_eq_true_eq] at here
        obtain ⟨⟨rfl, topic⟩, rfl⟩ := here
        simp [inside, topic]
      | false =>
        simp only [Bool.false_or]
        refine (List.append_left_eq_self.mpr ?_)
        simp only [isEntryOf, Bool.and_eq_false_iff, decide_eq_false_iff_not] at here
        split
        case isTrue offered =>
          have other : entry.id ≠ id := by
            rcases here with (differs | differs) | differs
            · exact differs
            · exact absurd offered.1 differs
            · exact absurd offered.2.1 differs
          simp [other]
        case isFalse => rfl

/-- What a publisher had for the subscription and what it gets is what it offers and what it
still has. -/
theorem published_step (fromStr : List Char → Except String Request) (wf : HubWf p)
    (conn : Nat) (id : String) (e : ControlEvent) :
    (p.offeredTo conn e).toList.filter (fun push => push.subscriptionId = id) ++
        (p.step fromStr e).pendingFor conn id =
      p.pendingFor conn id ++ (p.publishedTo conn id e).toList := by
  rcases fanOut_step fromStr p e with same | ⟨topic, data, rfl⟩ | rfl | rfl
  · have still : (p.step fromStr e).pendingFor conn id = p.pendingFor conn id := by
      simp only [pendingFor, same]
    rw [still]
    cases e with
    | offer =>
      have law := offer_law wf conn id
      rw [show p.offer.pendingFor conn id = p.pendingFor conn id from still] at law
      simpa [publishedTo] using law
    | publish topic data =>
      cases fanned : p.fanOut with
      | some fan => simp [offeredTo, publishedTo, fanned]
      | none => simp [step, publish, fanned] at same
    | _ => simp [offeredTo, publishedTo]
  · cases fanned : p.fanOut with
    | some fan =>
      simp [offeredTo, publishedTo, step, publish, fanned]
    | none =>
      simp only [offeredTo, publishedTo, step, publish, pendingFor, fanned, Option.isNone_none,
        Bool.true_and, Option.toList_none, List.filter_nil, List.nil_append]
      split
      · rfl
      · rfl
  · rw [show p.step fromStr .offer = p.offer from rfl, offer_law wf]
    simp [publishedTo]
  · cases fanned : p.fanOut with
    | none => simp [offeredTo, publishedTo, step, release, pendingFor, fanned]
    | some fan =>
      cases done : fan.rest with
      | nil => simp [offeredTo, publishedTo, step, release, pendingFor, fanned, done]
      | cons entry rest => simp [offeredTo, publishedTo, step, release, pendingFor, fanned, done]

theorem offers_concat (e : ControlEvent) :
    p.offers fromStr (es ++ [e]) conn =
      p.offers fromStr es conn ++ ((run (step fromStr) p es).offeredTo conn e).toList :=
  filterMap_history_concat (step fromStr) p es e fun x => x.1.offeredTo conn x.2

theorem published_concat (e : ControlEvent) :
    p.published fromStr (es ++ [e]) conn id =
      p.published fromStr es conn id ++ ((run (step fromStr) p es).publishedTo conn id e).toList :=
  filterMap_history_concat (step fromStr) p es e fun x => x.1.publishedTo conn id x.2

/-- What the connection is offered for the subscription, and what a publisher still has for it,
is what has been published. -/
theorem offers_run (fromStr : List Char → Except String Request) (config : DynamicConfig)
    (es : List ControlEvent) (conn : Nat) (id : String) :
    (offers fromStr { config } es conn).filter (fun push => push.subscriptionId = id) ++
        (run (step fromStr) { config } es).pendingFor conn id =
      published fromStr { config } es conn id := by
  induction es using List.reverseRecOn with
  | nil => rfl
  | append_singleton es e ih =>
    have law := published_step fromStr (hubWf_run fromStr config es) conn id e
    rw [run_append, run_cons, run_nil, offers_concat, published_concat, List.filter_append,
      List.append_assoc, law, ← List.append_assoc, ih]

/-- A connection is given what it is offered, in order. -/
theorem given_run (config : DynamicConfig) :
    (∀ s, (run (step fromStr) { config } es).sessions[conn]? = some s →
      s.given.Sublist (offers fromStr { config } es conn) ∧
      (s.Up → NeverFull fromStr { config } es conn → s.given = offers fromStr { config } es conn)) ∧
    ((run (step fromStr) { config } es).sessions[conn]? = none → offers fromStr { config } es conn = []) := by
  refine session_run (fun es => offers fromStr { config } es conn = [])
    (fun es s => s.given.Sublist (offers fromStr { config } es conn) ∧
      (s.Up → NeverFull fromStr { config } es conn → s.given = offers fromStr { config } es conn))
    rfl ?absent ?accepted ?served es
  case absent =>
    intro es e _ quiet none
    rw [offers_concat, quiet, none]
    rfl
  case accepted =>
    intro es none
    rw [none]
    exact ⟨List.Sublist.refl _, fun _ _ => rfl⟩
  case served =>
    rintro es e s s' before moved ⟨ordered, complete⟩
    rw [offers_concat]
    simp only [NeverFull, history_concat, List.forall_mem_append, List.forall_mem_singleton]
    obtain ⟨keeps, gains⟩ := moved.given
    refine ⟨keeps.trans (ordered.append_right _), ?_⟩
    rintro up ⟨room, roomNow⟩
    -- the channel of a connection that is up has not been closed
    have wasUp : s.Up := (moved.replies.1 up).1
    have openly := (hubWf_run fromStr config es).channel_open before wasUp.2
    rw [gains up openly fun push offered => roomNow push offered s before, complete wasUp room]

end Laws

/-! ### Results -/

/-- However connections and publishers take turns, the hub has no stray subscription: ids are
distinct, each belongs to a connection that is being served or still cleaning up and that knows
it, and a connection that is gone has none. No publisher meets a closed channel or has
anything to clean up. -/
theorem subscriptions_die_with_connection (fromStr : List Char → Except String Request)
    (config : DynamicConfig) (es : List ControlEvent) :
    let p := run (step fromStr) { config } es
    (p.hub.entries.map (·.id)).Nodup ∧
      (∀ e ∈ p.hub.entries, ∃ s, p.sessions[e.sender]? = some s ∧ s.phase ≠ .gone ∧ e.id ∈ s.ownedIds) ∧
      (∀ conn s, p.sessions[conn]? = some s → s.phase = .gone →
        ∀ e ∈ p.hub.entries, e.sender ≠ conn) ∧
      (∀ fan ∈ p.fanOut, fan.toPrune = []) ∧ p.prunes = [] := by
  have wf := hubWf_run fromStr config es
  refine ⟨wf.distinct, wf.owned, fun conn s found gone e member here => ?_,
    fun fan present => (wf.fanOut fan present).1, wf.prunes⟩
  obtain ⟨t, at_sender, there, -⟩ := wf.owned e member
  rw [here, found] at at_sender
  exact there (Option.some.inj at_sender ▸ gone)

/-- For each of its subscriptions a client gets the events of the topic in the order in which
they were published, and none twice. As long as it is connected and its queue has never been
full when an event came, it misses none: what it has got, what is on its way to it, and what a
publisher is about to offer it are all that was published. -/
theorem pushes_in_order (fromStr : List Char → Except String Request) (config : DynamicConfig)
    (es : List ControlEvent) (conn : Nat) (id : String) (s : Session)
    (found : (run (step fromStr) { config } es).sessions[conn]? = some s) :
    (s.given.filter fun push => push.subscriptionId = id).Sublist
        (published fromStr { config } es conn id) ∧
      (s.Up → NeverFull fromStr { config } es conn →
        (s.given.filter fun push => push.subscriptionId = id) ++
            (run (step fromStr) { config } es).pendingFor conn id =
          published fromStr { config } es conn id) := by
  obtain ⟨ordered, complete⟩ := (given_run config).1 s found
  have law := offers_run fromStr config es conn id
  refine ⟨?_, fun up room => ?_⟩
  · rw [← law]
    exact (ordered.filter _).trans (List.sublist_append_left _ _)
  · rw [complete up room]
    exact law

/-- A client that has subscribed gets the event that is published then; another one, whose
publisher has not come to it yet, is all that is missing. -/
theorem pushes_in_order_sample :
    let es := Sample.subscribe ++
      [.publish "stats" .null, .offer, .release, .takePush 0, .written 0 true,
        .publish "stats" (.bool true)]
    let p := run (step Sample.fromStr) { config := .new } es
    ∃ s, p.sessions[0]? = some s ∧ s.received = [⟨"stats", "sub-0", .null⟩] ∧
      p.pendingFor 0 "sub-0" = [⟨"stats", "sub-0", .bool true⟩] ∧
      (s.given.filter fun push => push.subscriptionId = "sub-0").Sublist
        (published Sample.fromStr { config := .new } es 0 "sub-0") ∧
      (s.given.filter fun push => push.subscriptionId = "sub-0") ++ p.pendingFor 0 "sub-0" =
        published Sample.fromStr { config := .new } es 0 "sub-0" := by
  intro es p
  obtain ⟨s, found⟩ := Option.isSome_iff_exists.mp
    (show p.sessions[0]?.isSome = true by rfl)
  have same : s = p.sessions[0]?.get rfl := by simp only [found, Option.get_some]
  have law := pushes_in_order Sample.fromStr .new es 0 "sub-0" s found
  have room : NeverFull Sample.fromStr { config := .new } es 0 := by
    unfold NeverFull
    decide +kernel
  refine ⟨s, found, ?_, rfl, law.1, law.2 ?_ room⟩
  · rw [same]
    rfl
  · rw [same]
    exact Session.up_of_selecting rfl

end ControlPlane

end SrtlaSend
