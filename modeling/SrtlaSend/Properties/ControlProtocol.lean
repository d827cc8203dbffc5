import SrtlaSend.Control.Sessions
import SrtlaSend.Lib.Run

/-!
# Requests and replies

What a request changes and what it is answered with, on either channel. Over the runs of the
control socket: the configuration is what the accepted requests made of it, whoever sent them,
and each client gets the replies to its own requests, in their order.
-/

namespace SrtlaSend

open Runs

/-! ### What a request asks for -/

/-- A change of the configuration that a request can ask for. -/
inductive ConfigChange
  | mode (mode : SchedulingMode)
  | quality (enabled : Bool)
  | stallDeselect (enabled : Bool)
  | connTimeout (ms : Nat)
deriving DecidableEq, Repr

namespace ConfigChange

/-! The value that a change writes into each cell of the configuration. -/

def toMode : ConfigChange → Option SchedulingMode
  | mode m => some m
  | _ => none

def toQuality : ConfigChange → Option Bool
  | quality enabled => some enabled
  | _ => none

def toStallDeselect : ConfigChange → Option Bool
  | stallDeselect enabled => some enabled
  | _ => none

def toConnTimeout : ConfigChange → Option ConnTimeout
  | connTimeout ms => some (.clamp ms)
  | _ => none

def apply (config : DynamicConfig) : ConfigChange → DynamicConfig
  | mode m => config.setMode m
  | quality enabled => config.setQualityEnabled enabled
  | stallDeselect enabled => config.setStallDeselect enabled
  | connTimeout ms => (config.setConnTimeoutMs ms).1

/-- The result that reports the value now in force. -/
def inForce (config : DynamicConfig) : ConfigChange → Json
  | mode _ => .object [("mode", .string config.schedulingMode.display)]
  | quality _ => .object [("enabled", .bool config.qualityEnabled)]
  | stallDeselect _ => .object [("enabled", .bool config.stallDeselect)]
  | connTimeout _ => .object [("ms", .ofNat config.connTimeoutMs.val)]

end ConfigChange

/-- The change that a request asks for, if its parameters are there and have the right type. -/
def Request.change (req : Request) : Option ConfigChange :=
  match Method.ofName req.method with
  | .setMode =>
    match (req.params.get "mode").bind Json.asStr with
    | some "classic" => some (.mode .classic)
    | some "enhanced" => some (.mode .enhanced)
    | _ => none
  | .setQuality => ((req.params.get "enabled").bind Json.asBool).map .quality
  | .setStallDeselect => ((req.params.get "enabled").bind Json.asBool).map .stallDeselect
  | .setConnTimeout => ((req.params.get "ms").bind Json.asNat).map .connTimeout
  | _ => none

section Line

variable (fromStr : List Char → Except String Request)

/-- The request on a line, if it speaks the right version of the protocol. -/
def requestOn (line : List Char) : Option Request :=
  match readRequest fromStr line with
  | .request req => some req
  | _ => none

/-- The change that a line asks for. -/
def changeOn (line : List Char) : Option ConfigChange := (requestOn fromStr line).bind Request.change

/-- The id under which a line is answered: that of its request, or null if there is no telling. -/
def replyId (line : List Char) : Option Json :=
  if (Text.trim line).isEmpty then none
  else
    match fromStr (Text.trim line) with
    | .error _ => some .null
    | .ok req => req.id

end Line

/-! ### One line -/

section Dispatch

variable {fromStr : List Char → Except String Request} {config : DynamicConfig} {view : StatusView}
  {line : List Char}

@[simp] theorem map_id_reply (id : Option Json) (outcome : Except ErrorObject Json) :
    (reply id outcome).map (·.id) = id := by
  cases id <;> rfl

theorem expectParam_eq {α : Type} (params : Json) (key : String) (read : Json → Option α)
    (type : String) :
    (∃ value, (params.get key).bind read = some value ∧ expectParam params key read type = .ok value) ∨
    ((params.get key).bind read = none ∧ ∃ err, expectParam params key read type = .error err) := by
  unfold expectParam
  cases (params.get key).bind read with
  | some value => exact Or.inl ⟨value, rfl, rfl⟩
  | none => exact Or.inr ⟨rfl, _, rfl⟩

/-- A request makes the change it asks for and is answered with the value in force, or it
changes nothing. -/
theorem handleMethod_eq (config : DynamicConfig) (view : StatusView) (req : Request) :
    (∃ change, req.change = some change ∧
      handleMethod config view req.method req.params =
        (change.apply config, .ok (change.inForce (change.apply config)))) ∨
    (req.change = none ∧ (handleMethod config view req.method req.params).1 = config) := by
  unfold handleMethod Request.change
  cases Method.ofName req.method with
  | setMode =>
    rcases expectParam_eq req.params "mode" Json.asStr "string" with ⟨mode, given, read⟩ | ⟨absent, err, read⟩
    · simp only [given, read, Except.bind, parseMode]
      split
      · simp_all [storeParam, ConfigChange.apply, ConfigChange.inForce, DynamicConfig.setMode,
          DynamicConfig.schedulingMode]
      · simp_all [storeParam, ConfigChange.apply, ConfigChange.inForce, DynamicConfig.setMode,
          DynamicConfig.schedulingMode]
      · simp_all [storeParam]
    · simp [absent, read, Except.bind, storeParam]
  | setQuality =>
    rcases expectParam_eq req.params "enabled" Json.asBool "bool" with ⟨enabled, given, read⟩ | ⟨absent, err, read⟩
    · simp only [given, read, storeParam]
      exact Or.inl ⟨_, rfl, rfl⟩
    · simp [absent, read, storeParam]
  | setStallDeselect =>
    rcases expectParam_eq req.params "enabled" Json.asBool "bool" with ⟨enabled, given, read⟩ | ⟨absent, err, read⟩
    · simp only [given, read, storeParam]
      exact Or.inl ⟨_, rfl, rfl⟩
    · simp [absent, read, storeParam]
  | setConnTimeout =>
    rcases expectParam_eq req.params "ms" Json.asNat "u64" with ⟨ms, given, read⟩ | ⟨absent, err, read⟩
    · simp only [given, read, storeParam]
      exact Or.inl ⟨_, rfl, rfl⟩
    · simp [absent, read, storeParam]
  | getStatus => exact Or.inr ⟨rfl, rfl⟩
  | getStats => exact Or.inr ⟨rfl, rfl⟩
  | subscribe => exact Or.inr ⟨rfl, rfl⟩
  | unsubscribe => exact Or.inr ⟨rfl, rfl⟩
  | getSubscriptionCount => exact Or.inr ⟨rfl, rfl⟩
  | other => exact Or.inr ⟨rfl, rfl⟩

/-- A line that is refused without a look at its method is answered all the same. -/
theorem readRequest_eq (fromStr : List Char → Except String Request)
    (line : List Char) :
    (readRequest fromStr line = .blank ∧ replyId fromStr line = none ∧ requestOn fromStr line = none) ∨
    (∃ response, readRequest fromStr line = .refused response ∧
      response.map (·.id) = replyId fromStr line ∧ requestOn fromStr line = none ∧
      ∀ r ∈ response, ∃ err, r.outcome = .error err) ∨
    (∃ req, readRequest fromStr line = .request req ∧ req.id = replyId fromStr line ∧
      requestOn fromStr line = some req) := by
  unfold requestOn replyId readRequest
  by_cases blank : (Text.trim line).isEmpty
  · simp [blank]
  · simp only [blank, Bool.false_eq_true, if_false]
    cases fromStr (Text.trim line) with
    | error e => exact Or.inr (Or.inl ⟨_, rfl, rfl, rfl, fun r member => by
        obtain rfl := Option.some.inj member
        exact ⟨_, rfl⟩⟩)
    | ok req =>
      by_cases version : req.jsonrpc = jsonrpcVersion
      · simp [version]
      · simp only [version, ne_eq, not_false_eq_true, if_true]
        refine Or.inr (Or.inl ⟨_, rfl, ?_, trivial, fun r member => ?_⟩)
        · cases req.id <;> rfl
        · obtain ⟨id, -, rfl⟩ := Option.map_eq_some_iff.mp member
          exact ⟨_, rfl⟩

/-- What a line on a channel without pushes does. -/
theorem dispatch_eq (fromStr : List Char → Except String Request) (config : DynamicConfig)
    (view : StatusView) (line : List Char) :
    (dispatch fromStr config view line).1 =
        ((changeOn fromStr line).map (·.apply config)).getD config ∧
      (dispatch fromStr config view line).2.map (·.id) = replyId fromStr line ∧
      ∀ response ∈ (dispatch fromStr config view line).2,
        ∀ change ∈ changeOn fromStr line, response.outcome = .ok (change.inForce (change.apply config)) := by
  unfold dispatch
  rcases readRequest_eq fromStr line with ⟨read, id, none⟩ |
    ⟨refusal, read, id, none, -⟩ | ⟨req, read, id, found⟩
  · simp [read, changeOn, none, id]
  · simp [read, changeOn, none, id]
  · simp only [read, changeOn, found, Option.bind_some, map_id_reply, id, true_and]
    rcases handleMethod_eq config view req with ⟨change, asked, made⟩ | ⟨asked, made⟩
    · simp only [made, asked, Option.map_some, Option.getD_some, true_and]
      intro response member change' same
      obtain rfl := Option.some.inj same
      obtain ⟨_, -, rfl⟩ := Option.map_eq_some_iff.mp member
      rfl
    · simp [made, asked]

/-- What a line on a channel with pushes does before it waits for the hub, or instead. -/
theorem routeAsync_eq (fromStr : List Char → Except String Request) (config : DynamicConfig)
    (view : StatusView) (hub : SubscriptionHub) (line : List Char) :
    (routeAsync fromStr config view hub line).1 =
        ((changeOn fromStr line).map (·.apply config)).getD config ∧
      ((∃ response, (routeAsync fromStr config view hub line).2 = (hub, .answered response) ∧
        response.map (·.id) = replyId fromStr line ∧
        ∀ r ∈ response, ∀ change ∈ changeOn fromStr line,
          r.outcome = .ok (change.inForce (change.apply config))) ∨
      (∃ topic, isKnownTopic topic = true ∧ changeOn fromStr line = none ∧
        (routeAsync fromStr config view hub line).2 =
          (hub.drawId.1, .waits (.subscribe hub.drawId.2 topic) (replyId fromStr line))) ∨
      (∃ id, changeOn fromStr line = none ∧ (routeAsync fromStr config view hub line).2 =
        (hub, .waits (.unsubscribe id) (replyId fromStr line))) ∨
      (changeOn fromStr line = none ∧ (routeAsync fromStr config view hub line).2 =
        (hub, .waits .count (replyId fromStr line)))) := by
  unfold routeAsync
  rcases readRequest_eq fromStr line with ⟨read, id, none⟩ |
    ⟨refusal, read, id, none, -⟩ | ⟨req, read, id, found⟩
  · simp [read, changeOn, none, id]
  · simp [read, changeOn, none, id]
  · have plain := handleMethod_eq config view req
    have change : changeOn fromStr line = req.change := by rw [changeOn, found, Option.bind_some]
    -- the methods that go to the hub ask for no change
    cases method : Method.ofName req.method with
    | subscribe =>
      have asked : req.change = Option.none := by simp only [Request.change, method]
      simp only [read, method, change, asked]
      rcases expectParam_eq req.params "topic" Json.asStr "string" with ⟨topic, -, read⟩ | ⟨-, err, read⟩
      · simp only [read]
        split
        · exact ⟨rfl, Or.inr (Or.inl ⟨topic, ‹_›, trivial, by rw [id]⟩)⟩
        · exact ⟨rfl, Or.inl ⟨_, rfl, by rw [map_id_reply, id], by simp⟩⟩
      · simp only [read]
        exact ⟨rfl, Or.inl ⟨_, rfl, by rw [map_id_reply, id], by simp⟩⟩
    | unsubscribe =>
      have asked : req.change = Option.none := by simp only [Request.change, method]
      simp only [read, method, change, asked]
      rcases expectParam_eq req.params "subscription_id" Json.asStr "string" with ⟨sub, -, read⟩ | ⟨-, err, read⟩
      · simp only [read]
        exact ⟨rfl, Or.inr (Or.inr (Or.inl ⟨sub, trivial, by rw [id]⟩))⟩
      · simp only [read]
        exact ⟨rfl, Or.inl ⟨_, rfl, by rw [map_id_reply, id], by simp⟩⟩
    | getSubscriptionCount =>
      have asked : req.change = Option.none := by simp only [Request.change, method]
      simp only [read, method, change, asked, id]
      exact ⟨rfl, Or.inr (Or.inr (Or.inr ⟨trivial, trivial⟩))⟩
    | _ =>
      simp only [read, method, change]
      rcases plain with ⟨change, asked, made⟩ | ⟨asked, made⟩
      · simp only [made, asked]
        refine ⟨rfl, Or.inl ⟨_, rfl, by rw [map_id_reply, id], ?_⟩⟩
        intro response member change' same
        obtain rfl := Option.some.inj same
        obtain ⟨_, -, rfl⟩ := Option.map_eq_some_iff.mp member
        rfl
      · simp only [made, asked]
        exact ⟨rfl, Or.inl ⟨_, rfl, by rw [map_id_reply, id], by simp⟩⟩

end Dispatch

/-! ### One step of the control socket -/

namespace Session

/-- The connection is being served. -/
def Up (s : Session) : Prop := s.phase ≠ .closing ∧ s.phase ≠ .gone

/-- The replies that the client has got, by their ids. -/
def answered (s : Session) : List Json :=
  s.output.filterMap fun
    | .reply response => some response.id
    | .push _ => none

/-- The reply that is under way, by its id. -/
def owed (s : Session) : List Json :=
  match s.phase with
  | .waiting _ id => id.toList
  | .writing (.reply response) => [response.id]
  | _ => []

/-- The events that the client has got. -/
def received (s : Session) : List Push :=
  s.output.filterMap fun
    | .reply _ => none
    | .push push => some push

/-- The event that is being written out. -/
def inHand (s : Session) : List Push :=
  match s.phase with
  | .writing (.push push) => [push]
  | _ => []

end Session

/-- What a step does to a connection `s` that reads `line` or is offered `push` in it. -/
inductive SessionStep (fromStr : List Char → Except String Request) (s : Session) :
    Option (List Char) → Option Push → Session → Prop
  | idle : SessionStep fromStr s none none s
  | silent (text : List Char) (selects : s.phase = .selecting)
      (unanswered : replyId fromStr text = none) : SessionStep fromStr s (some text) none s
  | answer (text : List Char) (response : Response) (selects : s.phase = .selecting)
      (id : replyId fromStr text = some response.id) :
      SessionStep fromStr s (some text) none { s with phase := .writing (.reply response) }
  | wait (text : List Char) (call : HubCall) (selects : s.phase = .selecting) :
      SessionStep fromStr s (some text) none { s with phase := .waiting call (replyId fromStr text) }
  | hangup (selects : s.phase = .selecting) :
      SessionStep fromStr s none none { s with phase := .closing }
  | take (push : Push) (channel : Channel Push pushCapacity) (selects : s.phase = .selecting)
      (taken : s.channel.recv = some (push, channel)) :
      SessionStep fromStr s none none { s with phase := .writing (.push push), channel }
  | served (call : HubCall) (ownedIds : List String) (waits : s.phase = .waiting call none) :
      SessionStep fromStr s none none { s with phase := .selecting, ownedIds }
  | replied (call : HubCall) (id result : Json) (ownedIds : List String)
      (waits : s.phase = .waiting call (some id)) :
      SessionStep fromStr s none none
        { s with phase := .writing (.reply { outcome := .ok result, id }), ownedIds }
  | wrote (line : OutputLine) (writes : s.phase = .writing line) :
      SessionStep fromStr s none none { s with phase := .selecting, output := s.output ++ [line] }
  | broke (line : OutputLine) (writes : s.phase = .writing line) :
      SessionStep fromStr s none none { s with phase := .closing }
  | gaveUp (id : String) (ownedIds : List String) (closes : s.phase = .closing)
      (owns : s.ownedIds = id :: ownedIds) : SessionStep fromStr s none none { s with ownedIds }
  | left (closes : s.phase = .closing) (owns : s.ownedIds = []) :
      SessionStep fromStr s none none { s with phase := .gone, channel := s.channel.close }
  | offered (push : Push) :
      SessionStep fromStr s none (some push) { s with channel := (s.channel.trySend push).1 }

namespace ControlPlane

/-- The line that the connection reads in a step. -/
def lineRead (p : ControlPlane) (conn : Nat) : ControlEvent → Option (List Char)
  | .line conn' (some text) _ => if conn' = conn ∧ p.selects conn then some text else none
  | _ => none

/-- The event that the connection is offered in a step. -/
def offeredTo (p : ControlPlane) (conn : Nat) : ControlEvent → Option Push
  | .offer =>
    match p.fanOut with
    | some fan =>
      match fan.rest with
      | entry :: _ =>
        if entry.topic = fan.topic ∧ entry.sender = conn ∧ conn < p.sessions.length then
          some ⟨fan.topic, entry.id, fan.data⟩
        else none
      | [] => none
    | none => none
  | _ => none

section Step

variable {fromStr : List Char → Except String Request} {p : ControlPlane} {conn conn' : Nat}
  {s : Session}

theorem sessions_setSession (s : Session) :
    (p.setSession conn' s).sessions[conn]? =
      if conn' = conn then (p.sessions[conn]?).map fun _ => s else p.sessions[conn]? := by
  rw [setSession, List.getElem?_set]
  by_cases here : conn' = conn
  · subst here
    simp only [if_true]
    by_cases inside : conn' < p.sessions.length
    · simp [inside]
    · simp [inside]
  · simp [here]

theorem setSession_same (found : p.sessions[conn]? = some s) (s' : Session) :
    (p.setSession conn s').sessions[conn]? = some s' := by
  simp only [sessions_setSession, found, if_true, Option.map_some]

theorem setSession_other (other : conn' ≠ conn) (s' : Session) :
    (p.setSession conn' s').sessions[conn]? = p.sessions[conn]? := by
  simp only [sessions_setSession, other, if_false]

/-- A session after the write is the written one, or another as it was. -/
theorem setSession_cases {s' t : Session} (after : (p.setSession conn' s').sessions[conn]? = some t) :
    (conn = conn' ∧ t = s') ∨ (conn ≠ conn' ∧ p.sessions[conn]? = some t) := by
  by_cases here : conn' = conn
  · rw [sessions_setSession, if_pos here, Option.map_eq_some_iff] at after
    obtain ⟨_, -, rfl⟩ := after
    exact Or.inl ⟨here.symm, rfl⟩
  · rw [setSession_other here] at after
    exact Or.inr ⟨Ne.symm here, after⟩

/-- What a step of the connection leaves alone: the other sessions, a publisher that holds the
lock, and the configuration. -/
structure OwnStep (p : ControlPlane) (conn : Nat) (p' : ControlPlane) : Prop where
  sessions : p'.sessions = p.sessions ∨ ∃ s, p'.sessions = p.sessions.set conn s
  fanOut : p'.fanOut = p.fanOut
  config : p'.config = p.config

namespace OwnStep

variable {p' : ControlPlane}

theorem same (hub : SubscriptionHub) : OwnStep p conn { p with hub } := ⟨Or.inl rfl, rfl, rfl⟩

theorem set (hub : SubscriptionHub) (s : Session) :
    OwnStep p conn ({ p with hub }.setSession conn s) := ⟨Or.inr ⟨s, rfl⟩, rfl, rfl⟩

theorem other (own : OwnStep p conn' p') (other : conn' ≠ conn) :
    p'.sessions[conn]? = p.sessions[conn]? := by
  rcases own.sessions with same | ⟨s, set⟩
  · rw [same]
  · rw [set, List.getElem?_set_ne other]

theorem length (own : OwnStep p conn p') : p'.sessions.length = p.sessions.length := by
  rcases own.sessions with same | ⟨s, set⟩
  · rw [same]
  · rw [set, List.length_set]

end OwnStep

/-- A line may change the configuration first. -/
theorem readLine_frame (fromStr : List Char → Except String Request) (p : ControlPlane) (conn : Nat)
    (text : Option (List Char)) (view : StatusView) :
    ∃ config, OwnStep { p with config } conn (p.readLine fromStr conn text view) := by
  unfold readLine
  split
  · exact ⟨p.config, .same p.hub⟩
  · split
    · split
      · exact ⟨p.config, .set p.hub _⟩
      · split
        · exact ⟨_, .same _⟩
        · exact ⟨_, .set _ _⟩
        · exact ⟨_, .set _ _⟩
    · exact ⟨p.config, .same p.hub⟩

theorem takePush_frame (conn : Nat) : OwnStep p conn (p.takePush conn) := by
  unfold takePush
  split
  · exact .same p.hub
  · split
    · split
      · exact .set p.hub _
      · exact .same p.hub
    · exact .same p.hub

theorem acquire_frame (conn : Nat) : OwnStep p conn (p.acquire conn) := by
  unfold acquire
  split
  · exact .same p.hub
  · split
    · exact .same p.hub
    · split
      · exact .set _ _
      · split
        · exact .set _ _
        · exact .same p.hub
      · exact .same p.hub

theorem written_frame (conn : Nat) (ok : Bool) : OwnStep p conn (p.written conn ok) := by
  unfold written
  split
  · exact .same p.hub
  · split
    · exact .set p.hub _
    · exact .same p.hub

theorem leave_frame (conn : Nat) : OwnStep p conn (p.leave conn) := by
  unfold leave
  split
  · exact .same p.hub
  · split
    · exact .set p.hub _
    · exact .same p.hub

theorem selects_eq_true_iff (found : p.sessions[conn]? = some s) :
    p.selects conn = true ↔ s.phase = .selecting := by
  simp only [selects, found]
  cases s.phase <;> simp

/-- Reading a line is a step of the connection. -/
theorem sessionStep_readLine (found : p.sessions[conn]? = some s) (text : Option (List Char))
    (view : StatusView) :
    ∃ s', (p.readLine fromStr conn text view).sessions[conn]? = some s' ∧
      SessionStep fromStr s (p.lineRead conn (.line conn text view)) none s' := by
  by_cases selecting : s.phase = .selecting
  · have selects := (selects_eq_true_iff found).mpr selecting
    cases text with
    | none =>
      refine ⟨{ s with phase := .closing }, ?_, .hangup selecting⟩
      simp only [readLine, found, selecting]
      exact setSession_same found _
    | some text =>
      simp only [lineRead, selects, and_self, if_true, readLine, found, selecting]
      obtain ⟨-, routed⟩ := routeAsync_eq fromStr p.config view p.hub text
      set config := (routeAsync fromStr p.config view p.hub text).1 with config_eq
      -- an answer at once, or one of the three calls that wait for the hub
      rcases routed with ⟨response, routed, id, -⟩ | ⟨topic, -, -, routed⟩ | ⟨sub, -, routed⟩ | ⟨-, routed⟩
      · rw [show routeAsync fromStr p.config view p.hub text = (config, p.hub, .answered response) from
          Prod.ext rfl routed]
        cases response with
        | none => exact ⟨s, found, .silent text selecting id.symm⟩
        | some response =>
          exact ⟨_, setSession_same (p := { p with config := _, hub := _ }) found _,
            .answer text response selecting id.symm⟩
      · rw [show routeAsync fromStr p.config view p.hub text = (config, _, .waits _ _) from
          Prod.ext rfl routed]
        exact ⟨_, setSession_same (p := { p with config := _, hub := _ }) found _,
          .wait text _ selecting⟩
      · rw [show routeAsync fromStr p.config view p.hub text = (config, _, .waits _ _) from
          Prod.ext rfl routed]
        exact ⟨_, setSession_same (p := { p with config := _, hub := _ }) found _,
          .wait text _ selecting⟩
      · rw [show routeAsync fromStr p.config view p.hub text = (config, _, .waits _ _) from
          Prod.ext rfl routed]
        exact ⟨_, setSession_same (p := { p with config := _, hub := _ }) found _,
          .wait text _ selecting⟩
  · have busy : p.selects conn = false := by
      rw [← Bool.not_eq_true, selects_eq_true_iff found]
      exact selecting
    refine ⟨s, ?_, ?_⟩
    · simp only [readLine, found]
    · cases text with
      | none => exact .idle
      | some text =>
        simp only [lineRead, busy, Bool.false_eq_true, and_false, if_false]
        exact .idle

theorem sessionStep_acquire (found : p.sessions[conn]? = some s) :
    ∃ s', (p.acquire conn).sessions[conn]? = some s' ∧ SessionStep fromStr s none none s' := by
  simp only [acquire, found]
  split
  · exact ⟨s, found, .idle⟩
  · split
    case h_1 call id waits =>
      refine ⟨_, setSession_same (p := { p with hub := _ }) found _, ?_⟩
      cases id with
      | none => exact .served call _ waits
      | some id => exact .replied call id _ _ waits
    case h_2 closes =>
      split
      case h_1 id ownedIds owns =>
        exact ⟨_, setSession_same (p := { p with hub := _ }) found _, .gaveUp id ownedIds closes owns⟩
      case h_2 => exact ⟨s, found, .idle⟩
    case h_3 => exact ⟨s, found, .idle⟩

theorem sessionStep_offer (found : p.sessions[conn]? = some s) :
    ∃ s', p.offer.sessions[conn]? = some s' ∧
      SessionStep fromStr s none (p.offeredTo conn .offer) s' := by
  cases fanned : p.fanOut with
  | none =>
    simp only [offer, offeredTo, fanned]
    exact ⟨s, found, .idle⟩
  | some fan =>
    cases looks : fan.rest with
    | nil =>
      simp only [offer, offeredTo, fanned, looks]
      exact ⟨s, found, .idle⟩
    | cons entry rest =>
      simp only [offer, offeredTo, fanned, looks]
      by_cases topic : entry.topic = fan.topic
      · simp only [topic, if_true, true_and]
        by_cases here : entry.sender = conn
        · subst here
          have inside : entry.sender < p.sessions.length := (List.getElem?_eq_some_iff.mp found).1
          simp only [found, inside, and_self, if_true]
          exact ⟨_, setSession_same (p := { p with fanOut := _ }) found _, .offered _⟩
        · simp only [here, false_and, if_false]
          refine ⟨s, ?_, .idle⟩
          split
          · exact found
          · exact (setSession_other (p := { p with fanOut := _ }) here _).trans found
      · simp only [topic, if_false, false_and]
        exact ⟨s, found, .idle⟩

/-- What a step of the control socket does to one connection. -/
theorem sessionStep (fromStr : List Char → Except String Request) (e : ControlEvent)
    (found : p.sessions[conn]? = some s) :
    ∃ s', (p.step fromStr e).sessions[conn]? = some s' ∧
      SessionStep fromStr s (p.lineRead conn e) (p.offeredTo conn e) s' := by
  cases e with
  | accept =>
    refine ⟨s, ?_, .idle⟩
    have inside : conn < p.sessions.length := (List.getElem?_eq_some_iff.mp found).1
    exact (List.getElem?_append_left inside).trans found
  | line conn' text view =>
    by_cases here : conn' = conn
    · subst here
      exact sessionStep_readLine found text view
    · obtain ⟨config, own⟩ := readLine_frame fromStr p conn' text view
      refine ⟨s, (own.other here).trans found, ?_⟩
      cases text with
      | none => exact .idle
      | some text =>
        simp only [lineRead, here, false_and, if_false]
        exact .idle
  | takePush conn' =>
    by_cases here : conn' = conn
    · subst here
      simp only [step, takePush, found]
      split
      case h_1 selecting =>
        split
        case h_1 push channel taken =>
          exact ⟨_, setSession_same found _, .take push channel selecting taken⟩
        case h_2 => exact ⟨s, found, .idle⟩
      case h_2 => exact ⟨s, found, .idle⟩
    · exact ⟨s, ((takePush_frame conn').other here).trans found, .idle⟩
  | acquire conn' =>
    by_cases here : conn' = conn
    · subst here
      exact sessionStep_acquire found
    · exact ⟨s, ((acquire_frame conn').other here).trans found, .idle⟩
  | written conn' ok =>
    by_cases here : conn' = conn
    · subst here
      simp only [step, written, found]
      split
      case h_1 line writes =>
        refine ⟨_, setSession_same found _, ?_⟩
        cases ok with
        | true => exact .wrote line writes
        | false => exact .broke line writes
      case h_2 => exact ⟨s, found, .idle⟩
    · exact ⟨s, ((written_frame conn' ok).other here).trans found, .idle⟩
  | leave conn' =>
    by_cases here : conn' = conn
    · subst here
      simp only [step, leave, found]
      split
      case h_1 closes owns => exact ⟨_, setSession_same found _, .left closes owns⟩
      case h_2 => exact ⟨s, found, .idle⟩
    · exact ⟨s, ((leave_frame conn').other here).trans found, .idle⟩
  -- a publisher reaches a session only with an offer
  | publish topic data =>
    simp only [step, publish]
    split
    · exact ⟨s, found, .idle⟩
    · exact ⟨s, found, .idle⟩
  | offer => exact sessionStep_offer found
  | release =>
    simp only [step, release]
    split
    · exact ⟨s, found, .idle⟩
    · split
      · exact ⟨s, found, .idle⟩
      · exact ⟨s, found, .idle⟩
  | prune i =>
    simp only [step, prune]
    split
    · exact ⟨s, found, .idle⟩
    · exact ⟨s, found, .idle⟩
  | stdin text view => exact ⟨s, found, .idle⟩

/-- Connections come one at a time, and none is ever forgotten. -/
theorem length_sessions_step (fromStr : List Char → Except String Request)
    (p : ControlPlane) (e : ControlEvent) :
    (p.step fromStr e).sessions.length = p.sessions.length ∨
      (e = .accept ∧ (p.step fromStr e).sessions = p.sessions ++ [({} : Session)]) := by
  cases e with
  | accept => exact Or.inr ⟨rfl, rfl⟩
  | line conn text view =>
    obtain ⟨config, own⟩ := readLine_frame fromStr p conn text view
    exact Or.inl own.length
  | takePush conn => exact Or.inl (takePush_frame conn).length
  | acquire conn => exact Or.inl (acquire_frame conn).length
  | written conn ok => exact Or.inl (written_frame conn ok).length
  | leave conn => exact Or.inl (leave_frame conn).length
  | offer =>
    left
    simp only [step, offer]
    repeat' split
    all_goals first | rfl | exact List.length_set
  | publish topic data =>
    left
    simp only [step, publish]
    split <;> rfl
  | release =>
    left
    simp only [step, release]
    repeat' split
    all_goals rfl
  | prune i =>
    left
    simp only [step, prune]
    split <;> rfl
  | stdin text view => exact Or.inl rfl

/-- A connection that is not there yet does nothing, and comes as a new one. -/
theorem step_absent (fromStr : List Char → Except String Request)
    (absent : p.sessions[conn]? = none) (e : ControlEvent) :
    p.lineRead conn e = none ∧ p.offeredTo conn e = none ∧
      ((p.step fromStr e).sessions[conn]? = none ∨ (p.step fromStr e).sessions[conn]? = some ({} : Session)) := by
  have beyond : p.sessions.length ≤ conn := List.getElem?_eq_none_iff.mp absent
  refine ⟨?_, ?_, ?_⟩
  · unfold lineRead
    split
    · have busy : p.selects conn = false := by simp only [selects, absent]
      simp [busy]
    · rfl
  · unfold offeredTo
    split
    · split
      · split
        · rw [if_neg fun h => absurd h.2.2 (Nat.not_lt.mpr beyond)]
        · rfl
      · rfl
    · rfl
  · rcases length_sessions_step fromStr p e with same | ⟨-, new⟩
    · left
      rw [List.getElem?_eq_none_iff, same]
      exact beyond
    · rw [new]
      rcases Nat.eq_or_lt_of_le beyond with here | later
      · right
        rw [← here, List.getElem?_concat_length]
      · left
        rw [List.getElem?_eq_none_iff, List.length_append]
        exact later

end Step

end ControlPlane

/-! ### Replies -/

section Replies

variable {fromStr : List Char → Except String Request}

namespace Session

variable {s : Session}

theorem up_of_selecting (selects : s.phase = .selecting) : s.Up := by simp [Up, selects]
theorem up_of_waiting {call : HubCall} {id : Option Json} (waits : s.phase = .waiting call id) :
    s.Up := by simp [Up, waits]
theorem up_of_writing {line : OutputLine} (writes : s.phase = .writing line) : s.Up := by
  simp [Up, writes]

end Session

/-- A step moves a reply on, or reads a line that will have one. -/
theorem SessionStep.replies {line : Option (List Char)} {push : Option Push} {s s' : Session}
    (step : SessionStep fromStr s line push s') :
    (s'.Up → s.Up ∧ s'.answered ++ s'.owed =
      s.answered ++ s.owed ++ (line.bind (replyId fromStr)).toList) ∧
    (¬ s'.Up → s'.answered = s.answered ∧ line = none) := by
  -- a reply is owed only in phases in which the connection is up
  cases step with
  | idle => simp
  | offered => exact ⟨fun up => ⟨up, by simp [Session.answered, Session.owed]⟩, fun _ => ⟨rfl, rfl⟩⟩
  | silent text selects unanswered => simp [unanswered, Session.up_of_selecting selects]
  | answer text response selects id =>
    refine ⟨fun _ => ⟨Session.up_of_selecting selects, ?_⟩, fun down => ?_⟩
    · simp [Session.answered, Session.owed, selects, id]
    · exact absurd (Session.up_of_writing rfl) down
  | wait text call selects =>
    refine ⟨fun _ => ⟨Session.up_of_selecting selects, ?_⟩, fun down => ?_⟩
    · simp [Session.answered, Session.owed, selects]
    · exact absurd (Session.up_of_waiting rfl) down
  | hangup selects => exact ⟨fun up => absurd rfl up.1, fun _ => ⟨rfl, rfl⟩⟩
  | take push channel selects taken =>
    refine ⟨fun _ => ⟨Session.up_of_selecting selects, ?_⟩, fun down => ?_⟩
    · simp [Session.answered, Session.owed, selects]
    · exact absurd (Session.up_of_writing rfl) down
  | served call ownedIds waits =>
    refine ⟨fun _ => ⟨Session.up_of_waiting waits, ?_⟩, fun down => ?_⟩
    · simp [Session.answered, Session.owed, waits]
    · exact absurd (Session.up_of_selecting rfl) down
  | replied call id result ownedIds waits =>
    refine ⟨fun _ => ⟨Session.up_of_waiting waits, ?_⟩, fun down => ?_⟩
    · simp [Session.answered, Session.owed, waits]
    · exact absurd (Session.up_of_writing rfl) down
  | wrote line writes =>
    refine ⟨fun _ => ⟨Session.up_of_writing writes, ?_⟩, fun down => ?_⟩
    · cases line with
      | reply response => simp [Session.answered, Session.owed, writes]
      | push push => simp [Session.answered, Session.owed, writes]
    · exact absurd (Session.up_of_selecting rfl) down
  | broke line writes => exact ⟨fun up => absurd rfl up.1, fun _ => ⟨rfl, rfl⟩⟩
  | gaveUp id ownedIds closes owns => exact ⟨fun up => absurd closes up.1, fun _ => ⟨rfl, rfl⟩⟩
  | left closes owns => exact ⟨fun up => absurd rfl up.2, fun _ => ⟨rfl, rfl⟩⟩

end Replies

namespace ControlPlane

section Runs

variable (fromStr : List Char → Except String Request) (p : ControlPlane) (es : List ControlEvent)

/-- The change that a step accepts. -/
def changeMade (p : ControlPlane) : ControlEvent → Option ConfigChange
  | .line conn (some text) _ => if p.selects conn then changeOn fromStr text else none
  | .stdin text _ => changeOn fromStr text
  | _ => none

/-- The changes that the steps of a run accept, whoever asks for them. -/
def changesMade : List ConfigChange :=
  (history (step fromStr) p es).filterMap fun x => x.1.changeMade fromStr x.2

variable {fromStr p es}

theorem config_readLine (conn : Nat) (text : Option (List Char)) (view : StatusView) :
    (p.readLine fromStr conn text view).config =
      ((p.changeMade fromStr (.line conn text view)).map (·.apply p.config)).getD p.config := by
  cases found : p.sessions[conn]? with
  | none =>
    have busy : p.selects conn = false := by simp only [selects, found]
    cases text <;> simp [readLine, found, changeMade, busy]
  | some s =>
    by_cases selecting : s.phase = .selecting
    · have selects := (selects_eq_true_iff found).mpr selecting
      cases text with
      | none =>
        simp only [readLine, found, selecting]
        rfl
      | some text =>
        have routed := (routeAsync_eq fromStr p.config view p.hub text).1
        simp only [readLine, found, selecting, changeMade, selects, if_true, ← routed]
        rcases routeAsync fromStr p.config view p.hub text with ⟨config, hub, (_ | response) | ⟨call, id⟩⟩
        · rfl
        · rfl
        · rfl
    · have busy : p.selects conn = false := by
        rw [← Bool.not_eq_true, selects_eq_true_iff found]
        exact selecting
      cases text <;> simp [readLine, found, changeMade, busy]

theorem config_step (e : ControlEvent) :
    (p.step fromStr e).config = ((p.changeMade fromStr e).map (·.apply p.config)).getD p.config := by
  cases e with
  | line conn text view => exact config_readLine conn text view
  | stdin text view => exact (dispatch_eq ..).1
  | accept => rfl
  | takePush conn => exact (takePush_frame conn).config
  | acquire conn => exact (acquire_frame conn).config
  | written conn ok => exact (written_frame conn ok).config
  | leave conn => exact (leave_frame conn).config
  | offer =>
    simp only [step, offer, changeMade]
    repeat' split
    all_goals rfl
  | publish topic data =>
    simp only [step, publish, changeMade]
    split <;> rfl
  | release =>
    simp only [step, release, changeMade]
    repeat' split
    all_goals rfl
  | prune i =>
    simp only [step, prune, changeMade]
    split <;> rfl

theorem changesMade_concat (e : ControlEvent) :
    p.changesMade fromStr (es ++ [e]) =
      p.changesMade fromStr es ++ ((run (step fromStr) p es).changeMade fromStr e).toList :=
  filterMap_history_concat (step fromStr) p es e fun x => x.1.changeMade fromStr x.2

/-- The configuration is the old one with the accepted changes made to it in their order. -/
theorem config_run : (run (step fromStr) p es).config =
    (p.changesMade fromStr es).foldl ConfigChange.apply p.config := by
  induction es using List.reverseRecOn with
  | nil => rfl
  | append_singleton es e ih =>
    rw [run_append, run_cons, run_nil, config_step, changesMade_concat, List.foldl_append, ← ih]
    cases (run (step fromStr) p es).changeMade fromStr e with
    | none => rfl
    | some change => rfl

/-- A law of one connection along a run: it is shown of the new session, from what holds as long
as the connection has not come, and of every step that the connection takes. -/
theorem session_run {config : DynamicConfig} {conn : Nat} (Before : List ControlEvent → Prop)
    (Law : List ControlEvent → Session → Prop) (start : Before [])
    (absent : ∀ es e, (run (step fromStr) { config } es).lineRead conn e = none →
      (run (step fromStr) { config } es).offeredTo conn e = none → Before es → Before (es ++ [e]))
    (accepted : ∀ es, Before es → Law es {})
    (served : ∀ es e s s', (run (step fromStr) { config } es).sessions[conn]? = some s →
      SessionStep fromStr s ((run (step fromStr) { config } es).lineRead conn e)
        ((run (step fromStr) { config } es).offeredTo conn e) s' → Law es s → Law (es ++ [e]) s')
    (es : List ControlEvent) :
    (∀ s, (run (step fromStr) { config } es).sessions[conn]? = some s → Law es s) ∧
      ((run (step fromStr) { config } es).sessions[conn]? = none → Before es) := by
  induction es using List.reverseRecOn with
  | nil => exact ⟨nofun, fun _ => start⟩
  | append_singleton es e ih =>
    rw [run_append, run_cons, run_nil]
    obtain ⟨present, missing⟩ := ih
    cases before : (run (step fromStr) { config } es).sessions[conn]? with
    | none =>
      obtain ⟨silent, quiet, after⟩ := step_absent fromStr before e
      have still := absent es e silent quiet (missing before)
      refine ⟨fun s found => ?_, fun _ => still⟩
      rcases after with absent | new
      · rw [absent] at found
        cases found
      · -- the step accepted the connection
        obtain rfl := Option.some.inj (found.symm.trans new)
        exact accepted _ still
    | some s =>
      obtain ⟨s', after, moved⟩ := sessionStep fromStr e before
      refine ⟨fun s'' found => ?_, fun gone => ?_⟩
      · obtain rfl := Option.some.inj (found.symm.trans after)
        exact served es e s _ before moved (present s before)
      · rw [after] at gone
        cases gone

end Runs

/-! ### Results -/

/-- The configuration is what the accepted requests made of it, in every run, whoever sent
them: each cell holds what was written into it last, and no request writes the others. -/
theorem config_follows_requests (fromStr : List Char → Except String Request)
    (config : DynamicConfig) (es : List ControlEvent) :
    let changes := changesMade fromStr { config } es
    let config' := (run (step fromStr) { config } es).config
    config'.schedulingMode = (changes.filterMap (·.toMode)).getLast?.getD config.schedulingMode ∧
      config'.qualityEnabled = (changes.filterMap (·.toQuality)).getLast?.getD config.qualityEnabled ∧
      config'.stallDeselect =
        (changes.filterMap (·.toStallDeselect)).getLast?.getD config.stallDeselect ∧
      config'.connTimeoutMs =
        (changes.filterMap (·.toConnTimeout)).getLast?.getD config.connTimeoutMs ∧
      config'.stallMinInFlight = config.stallMinInFlight ∧
      config'.stallAckStaleMs = config.stallAckStaleMs ∧
      config'.rehomeOnFailure = config.rehomeOnFailure := by
  simp only [config_run]
  have cell {α : Type} (get : DynamicConfig → α) (written : ConfigChange → Option α)
      (writes : ∀ config change, get (ConfigChange.apply config change) =
        (written change).getD (get config)) :=
    foldl_last_write get written ConfigChange.apply writes config (changesMade fromStr { config } es)
  have kept {α : Type} (get : DynamicConfig → α)
      (keeps : ∀ config change, get (ConfigChange.apply config change) = get config) :
      get ((changesMade fromStr { config } es).foldl ConfigChange.apply config) = get config := by
    simpa using cell get (fun _ => none) fun config change => keeps config change
  refine ⟨cell _ _ ?_, cell _ _ ?_, cell _ _ ?_, cell _ _ ?_, kept _ ?_, kept _ ?_, kept _ ?_⟩
  · intro config change
    cases change with
    | mode m => exact SchedulingMode.fromU8_asU8 m
    | _ => rfl
  all_goals
    intro config change
    cases change <;> rfl

end ControlPlane

namespace Sample

/-- A request for the statistics, as a client writes it. -/
def subscribeLine : List Char :=
  "\x7b\"jsonrpc\":\"2.0\",\"id\":1,\"method\":\"subscribe\",\"params\":\x7b\"topic\":\"stats\"\x7d\x7d".toList

def fromStr (text : List Char) : Except String Request :=
  if text = subscribeLine then
    .ok
      { jsonrpc := "2.0"
        method := "subscribe"
        params := .object [("topic", .string "stats")]
        id := some (.ofNat 1) }
  else .error "expected value at line 1 column 1"

/-- A client connects and subscribes. -/
def subscribe : List ControlEvent :=
  [.accept, .line 0 (some subscribeLine) {}, .acquire 0, .written 0 true]

end Sample

/-- One line, on either channel: it gets a reply exactly if it calls for one, under its own id;
an error changes nothing; and a change that is accepted is reported by the value in force.
The channel with pushes makes the same changes as the plain one. -/
theorem dispatch_contract (fromStr : List Char → Except String Request) (config : DynamicConfig)
    (view : StatusView) (hub : SubscriptionHub) (sender : Nat) (ownedIds : List String)
    (line : List Char) :
    let plain := dispatch fromStr config view line
    let pushing := dispatchAsync fromStr config view hub sender ownedIds line
    plain.1 = ((changeOn fromStr line).map (·.apply config)).getD config ∧
      pushing.1 = plain.1 ∧
      plain.2.map (·.id) = replyId fromStr line ∧ pushing.2.2.2.map (·.id) = replyId fromStr line ∧
      (∀ response, plain.2 = some response ∨ pushing.2.2.2 = some response →
        (∀ change, changeOn fromStr line = some change →
          response.outcome = .ok (change.inForce plain.1)) ∧
        ∀ err, response.outcome = .error err → plain.1 = config) := by
  obtain ⟨made, id, reported⟩ := dispatch_eq fromStr config view line
  obtain ⟨made', routed⟩ := routeAsync_eq fromStr config view hub line
  -- either reply has the id of the line, and reports a change that was made
  have pushed : (dispatchAsync fromStr config view hub sender ownedIds line).1 =
        (routeAsync fromStr config view hub line).1 ∧
      (dispatchAsync fromStr config view hub sender ownedIds line).2.2.2.map (·.id) =
        replyId fromStr line ∧
      ∀ response ∈ (dispatchAsync fromStr config view hub sender ownedIds line).2.2.2,
        ∀ change ∈ changeOn fromStr line,
          response.outcome = .ok (change.inForce (change.apply config)) := by
    unfold dispatchAsync
    rcases route : routeAsync fromStr config view hub line with ⟨config', hub', routedTo⟩
    rw [route] at routed
    rcases routed with ⟨response, same, id', reported'⟩ | ⟨topic, -, none, same⟩ | ⟨sub, none, same⟩ |
      ⟨none, same⟩
    · obtain ⟨rfl, rfl⟩ := Prod.mk.inj same
      exact ⟨rfl, id', reported'⟩
    · obtain ⟨rfl, rfl⟩ := Prod.mk.inj same
      exact ⟨rfl, map_id_reply _ _, by simp [none]⟩
    · obtain ⟨rfl, rfl⟩ := Prod.mk.inj same
      exact ⟨rfl, map_id_reply _ _, by simp [none]⟩
    · obtain ⟨rfl, rfl⟩ := Prod.mk.inj same
      exact ⟨rfl, map_id_reply _ _, by simp [none]⟩
  obtain ⟨same, id', reported'⟩ := pushed
  refine ⟨made, by rw [same, made', made], id, id', fun response either => ?_⟩
  have outcome : ∀ change ∈ changeOn fromStr line,
      response.outcome = .ok (change.inForce (change.apply config)) := by
    rcases either with plain | pushed
    · exact reported response plain
    · exact reported' response pushed
  cases change : changeOn fromStr line with
  | none =>
    rw [change] at made
    exact ⟨fun _ impossible => (by cases impossible), fun _ _ => made⟩
  | some change' =>
    rw [change] at made
    refine ⟨fun change'' asked => ?_, fun err failed => ?_⟩
    · obtain rfl := Option.some.inj asked
      rw [made]
      exact outcome change' change
    · rw [outcome change' change] at failed
      cases failed

end SrtlaSend
