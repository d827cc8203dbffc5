import SrtlaSend.Control.Dispatch
import SrtlaSend.Lib.Channel

/-!
# Control socket

The tasks around the subscription hub: one for every connection to the control socket, and
the publishers. A step is what one task does between two points where it waits, so that runs
are all interleavings. The hub is behind a lock; a publisher keeps it while it offers its
event to one subscription after the other, and everybody else has it for one step.
-/

namespace SrtlaSend

/-- An event for one subscription. -/
structure Push where
  topic : String
  subscriptionId : String
  data : Json

def Push.toValue (push : Push) : Json :=
  .object
    [("jsonrpc", .string jsonrpcVersion), ("method", .string (push.topic ++ ".update")),
      ("params", .object
        [("subscription_id", .string push.subscriptionId), ("data", push.data)])]

def pushCapacity : Nat := 128

/-- A line to the client. -/
inductive OutputLine
  | reply (response : Response)
  | push (push : Push)

/-- Where the task of a connection waits. -/
inductive SessionPhase
  | selecting
  | waiting (call : HubCall) (id : Option Json)
  | writing (line : OutputLine)
  | closing
  | gone

/-- A reply is written out; without one the task waits for what comes next. -/
def SessionPhase.after : Option Response → SessionPhase
  | some response => .writing (.reply response)
  | none => .selecting

structure Session where
  phase : SessionPhase := .selecting
  channel : Channel Push pushCapacity := .new
  ownedIds : List String := []
  output : List OutputLine := []

/-- An event on its way to the subscriptions; `rest` are those not yet looked at. -/
structure FanOut where
  topic : String
  data : Json
  rest : List Entry
  toPrune : List String := []

/-- The state that the tasks share, and their own. While `fanOut` is present a publisher has
the lock. `prunes` are the clean-ups that wait for it. -/
structure ControlPlane where
  config : DynamicConfig
  hub : SubscriptionHub := {}
  fanOut : Option FanOut := none
  prunes : List (List String) := []
  sessions : List Session := []

inductive ControlEvent
  | accept
  | line (conn : Nat) (text : Option (List Char)) (view : StatusView)
  | takePush (conn : Nat)
  | acquire (conn : Nat)
  | written (conn : Nat) (ok : Bool)
  | leave (conn : Nat)
  | publish (topic : String) (data : Json)
  | offer
  | release
  | prune (i : Nat)
  | stdin (text : List Char) (view : StatusView)

namespace ControlPlane

def setSession (p : ControlPlane) (conn : Nat) (s : Session) : ControlPlane :=
  { p with sessions := p.sessions.set conn s }

/-- The connection waits for a line or an event. -/
def selects (p : ControlPlane) (conn : Nat) : Bool :=
  match p.sessions[conn]? with
  | some s =>
    match s.phase with
    | .selecting => true
    | _ => false
  | none => false

def accept (p : ControlPlane) : ControlPlane := { p with sessions := p.sessions ++ [{}] }

/-- `read_line` returns to a connection that is not busy: with a line, or with the end of the
stream or an error. -/
def readLine (fromStr : List Char → Except String Request) (p : ControlPlane) (conn : Nat)
    (text : Option (List Char)) (view : StatusView) : ControlPlane :=
  match p.sessions[conn]? with
  | none => p
  | some s =>
    match s.phase with
    | .selecting =>
      match text with
      | none => p.setSession conn { s with phase := .closing }
      | some text =>
        match routeAsync fromStr p.config view p.hub text with
        | (config, hub, .answered none) => { p with config, hub }
        | (config, hub, .answered (some response)) =>
          { p with config, hub }.setSession conn { s with phase := .writing (.reply response) }
        | (config, hub, .waits call id) =>
          { p with config, hub }.setSession conn { s with phase := .waiting call id }
    | _ => p

/-- A connection that is not busy takes an event to write it out. -/
def takePush (p : ControlPlane) (conn : Nat) : ControlPlane :=
  match p.sessions[conn]? with
  | none => p
  | some s =>
    match s.phase with
    | .selecting =>
      match s.channel.recv with
      | some (push, channel) => p.setSession conn { s with phase := .writing (.push push), channel }
      | none => p
    | _ => p

/-- A connection gets the hub: for its call, or to give up one of its subscriptions. -/
def acquire (p : ControlPlane) (conn : Nat) : ControlPlane :=
  if p.fanOut.isSome then p
  else
    match p.sessions[conn]? with
    | none => p
    | some s =>
      match s.phase with
      | .waiting call id =>
        let (hub, ownedIds, result) := serveCall p.hub conn s.ownedIds call
        { p with hub }.setSession conn { s with phase := .after (reply id (.ok result)), ownedIds }
      | .closing =>
        match s.ownedIds with
        | id :: ownedIds => { p with hub := (p.hub.unsubscribe id).1 }.setSession conn { s with ownedIds }
        | [] => p
      | _ => p

/-- A write has ended; one that fails ends the connection. -/
def written (p : ControlPlane) (conn : Nat) (ok : Bool) : ControlPlane :=
  match p.sessions[conn]? with
  | none => p
  | some s =>
    match s.phase with
    | .writing line =>
      p.setSession conn
        (if ok then { s with phase := .selecting, output := s.output ++ [line] }
        else { s with phase := .closing })
    | _ => p

/-- A task that has given up its subscriptions returns, and its channel closes. -/
def leave (p : ControlPlane) (conn : Nat) : ControlPlane :=
  match p.sessions[conn]? with
  | none => p
  | some s =>
    match s.phase, s.ownedIds with
    | .closing, [] => p.setSession conn { s with phase := .gone, channel := s.channel.close }
    | _, _ => p

/-- A publisher gets the lock. -/
def publish (p : ControlPlane) (topic : String) (data : Json) : ControlPlane :=
  match p.fanOut with
  | some _ => p
  | none => { p with fanOut := some { topic, data, rest := p.hub.entries } }

/-- The publisher looks at the next subscription. -/
def offer (p : ControlPlane) : ControlPlane :=
  match p.fanOut with
  | none => p
  | some fan =>
    match fan.rest with
    | [] => p
    | entry :: rest =>
      if entry.topic = fan.topic then
        match p.sessions[entry.sender]? with
        | none => { p with fanOut := some { fan with rest } }
        | some s =>
          let (channel, result) := s.channel.trySend ⟨fan.topic, entry.id, fan.data⟩
          let toPrune := if result = .closed then fan.toPrune ++ [entry.id] else fan.toPrune
          { p with fanOut := some { fan with rest, toPrune } }.setSession entry.sender { s with channel }
      else { p with fanOut := some { fan with rest } }

/-- The publisher has looked at every subscription. -/
def release (p : ControlPlane) : ControlPlane :=
  match p.fanOut with
  | none => p
  | some fan =>
    if fan.rest.isEmpty then
      { p with
        fanOut := none
        prunes := if fan.toPrune.isEmpty then p.prunes else p.prunes ++ [fan.toPrune] }
    else p

/-- A publisher gets the lock again, for its clean-up. -/
def prune (p : ControlPlane) (i : Nat) : ControlPlane :=
  match p.fanOut, p.prunes[i]? with
  | none, some closed => { p with hub := p.hub.prune closed, prunes := p.prunes.eraseIdx i }
  | _, _ => p

/-- A line on the standard input; the reply goes to the standard output. -/
def stdin (fromStr : List Char → Except String Request) (p : ControlPlane) (text : List Char)
    (view : StatusView) : ControlPlane :=
  { p with config := (dispatch fromStr p.config view text).1 }

/-- What cannot happen in a state changes nothing. -/
def step (fromStr : List Char → Except String Request) (p : ControlPlane) : ControlEvent → ControlPlane
  | .accept => p.accept
  | .line conn text view => p.readLine fromStr conn text view
  | .takePush conn => p.takePush conn
  | .acquire conn => p.acquire conn
  | .written conn ok => p.written conn ok
  | .leave conn => p.leave conn
  | .publish topic data => p.publish topic data
  | .offer => p.offer
  | .release => p.release
  | .prune i => p.prune i
  | .stdin text view => p.stdin fromStr text view

end ControlPlane

end SrtlaSend
