import SrtlaSend.Control.Config
import SrtlaSend.Control.PriorityListener
import SrtlaSend.Lib.Text

/-!
# Control protocol

JSON-RPC requests, one a line. A request without an id is a notification and gets no reply.
The parser of requests is a parameter, with the text of its error, and so is what the stored
statistics parse to. Subscriptions are handed to the hub; the part of a request before it
waits for the hub and the part after are two functions, since other tasks run in between.
-/

namespace SrtlaSend

def parseErrorCode : Int := -32700
def invalidRequestCode : Int := -32600
def methodNotFoundCode : Int := -32601
def invalidParamsCode : Int := -32602
def internalErrorCode : Int := -32603

def jsonrpcVersion : String := "2.0"

structure Request where
  jsonrpc : String
  method : String
  params : Json := .null
  id : Option Json := none

structure ErrorObject where
  code : Int
  message : String
  data : Option Json := none

def ErrorObject.toValue (err : ErrorObject) : Json :=
  .object ([("code", .number (.negative err.code)), ("message", .string err.message)] ++
    (err.data.map fun data => ("data", data)).toList)

/-- A reply carries a result or an error, never both. -/
structure Response where
  outcome : Except ErrorObject Json
  id : Json

namespace Response

def ok (id result : Json) : Response := { outcome := .ok result, id }

def err (id : Json) (error : ErrorObject) : Response := { outcome := .error error, id }

def toValue (response : Response) : Json :=
  .object
    [("jsonrpc", .string jsonrpcVersion),
      (match response.outcome with
        | .ok result => ("result", result)
        | .error error => ("error", error.toValue)),
      ("id", response.id)]

end Response

/-- What a request reads besides the configuration: the stored statistics, as they parse, and
the counters of the priority sidecar. -/
structure StatusView where
  stats : Option (Except String Json) := none
  criticalWindow : Option PriorityState := none

inductive Method
  | setMode
  | setQuality
  | setStallDeselect
  | setConnTimeout
  | getStatus
  | getStats
  | subscribe
  | unsubscribe
  | getSubscriptionCount
  | other
deriving DecidableEq, Repr

def Method.ofName (name : String) : Method :=
  if name = "set_mode" then setMode
  else if name = "set_quality" then setQuality
  else if name = "set_stall_deselect" then setStallDeselect
  else if name = "set_conn_timeout" then setConnTimeout
  else if name = "get_status" then getStatus
  else if name = "get_stats" then getStats
  else if name = "subscribe" then subscribe
  else if name = "unsubscribe" then unsubscribe
  else if name = "get_subscription_count" then getSubscriptionCount
  else other

def parseMode (s : String) : Except ErrorObject SchedulingMode :=
  if s = "classic" then .ok .classic
  else if s = "enhanced" then .ok .enhanced
  else .error
    { code := invalidParamsCode, message := "unknown mode '" ++ s ++ "': use classic or enhanced" }

/-- A parameter in the type that the method expects. -/
def expectParam {α : Type} (params : Json) (key : String) (read : Json → Option α) (type : String) :
    Except ErrorObject α :=
  match (params.get key).bind read with
  | some value => .ok value
  | none =>
    .error { code := invalidParamsCode, message := "expected params." ++ key ++ ": " ++ type }

/-- A method that stores what it reads, and echoes what was stored. -/
def storeParam {α : Type} (config : DynamicConfig) (param : Except ErrorObject α)
    (store : DynamicConfig → α → DynamicConfig × Json) : DynamicConfig × Except ErrorObject Json :=
  match param with
  | .ok value => ((store config value).1, .ok (store config value).2)
  | .error err => (config, .error err)

def getStatus (config : DynamicConfig) (criticalWindow : Option PriorityState) : Json :=
  let snap := config.snapshot 0
  .object
    [("mode", .string snap.mode.display),
      ("quality_enabled", .bool snap.qualityEnabled),
      ("stall_deselect", .bool snap.stallDeselect),
      ("stall_min_in_flight", .number
        (if snap.stallMinInFlight < 0 then .negative snap.stallMinInFlight
        else .natural snap.stallMinInFlight.toNat)),
      ("stall_ack_stale_ms", .ofNat snap.stallAckStaleMs),
      ("conn_timeout_ms", .ofNat snap.connTimeoutMs),
      ("critical_windows_received", .ofNat ((criticalWindow.map (·.windowsReceived)).getD 0)),
      ("critical_malformed_datagrams", .ofNat ((criticalWindow.map (·.malformedDatagrams)).getD 0))]

def getStats (stats : Option (Except String Json)) : Except ErrorObject Json :=
  match stats with
  | none => .error { code := internalErrorCode, message := "stats provider not registered" }
  | some (.error e) =>
    .error { code := internalErrorCode, message := "failed to re-parse stats JSON", data := some (.string e) }
  | some (.ok value) => .ok value

/-- The methods that need no hub. -/
def handleMethod (config : DynamicConfig) (view : StatusView) (method : String) (params : Json) :
    DynamicConfig × Except ErrorObject Json :=
  match Method.ofName method with
  | .setMode =>
    storeParam config ((expectParam params "mode" Json.asStr "string").bind parseMode)
      fun config mode => (config.setMode mode, .object [("mode", .string mode.display)])
  | .setQuality =>
    storeParam config (expectParam params "enabled" Json.asBool "bool")
      fun config enabled => (config.setQualityEnabled enabled, .object [("enabled", .bool enabled)])
  | .setStallDeselect =>
    storeParam config (expectParam params "enabled" Json.asBool "bool")
      fun config enabled => (config.setStallDeselect enabled, .object [("enabled", .bool enabled)])
  | .setConnTimeout =>
    storeParam config (expectParam params "ms" Json.asNat "u64")
      fun config ms =>
        ((config.setConnTimeoutMs ms).1, .object [("ms", .ofNat (config.setConnTimeoutMs ms).2)])
  | .getStatus => (config, .ok (getStatus config view.criticalWindow))
  | .getStats => (config, getStats view.stats)
  | .subscribe | .unsubscribe =>
    (config, .error
      { code := methodNotFoundCode
        message := method ++ " is reserved for a future streaming protocol, not yet implemented" })
  | .getSubscriptionCount | .other =>
    (config, .error { code := methodNotFoundCode, message := "unknown method: " ++ method })

/-! ### Requests -/

/-- A line of text, as far as it can be read: nothing, a refusal, or a request. -/
inductive ReadLine
  | blank
  | refused (reply : Option Response)
  | request (req : Request)

/-- `fromStr` parses a request, or says why it cannot. -/
def readRequest (fromStr : List Char → Except String Request) (line : List Char) : ReadLine :=
  let line := Text.trim line
  if line.isEmpty then .blank
  else
    match fromStr line with
    | .error e =>
      .refused (some (.err .null
        { code := parseErrorCode, message := "parse error", data := some (.string e) }))
    | .ok req =>
      if req.jsonrpc ≠ jsonrpcVersion then
        .refused (req.id.map fun id =>
          .err id { code := invalidRequestCode, message := "jsonrpc version must be \"2.0\"" })
      else .request req

/-- The reply to a request; a notification gets none. -/
def reply (id : Option Json) (outcome : Except ErrorObject Json) : Option Response :=
  id.map fun id => { outcome, id }

/-- A request on a channel that cannot push. -/
def dispatch (fromStr : List Char → Except String Request) (config : DynamicConfig)
    (view : StatusView) (line : List Char) : DynamicConfig × Option Response :=
  match readRequest fromStr line with
  | .blank => (config, none)
  | .refused response => (config, response)
  | .request req =>
    let (config, outcome) := handleMethod config view req.method req.params
    (config, reply req.id outcome)

/-! ### The hub -/

/-- One subscription; `sender` is the connection whose push channel it writes to. -/
structure Entry where
  id : String
  topic : String
  sender : Nat
deriving DecidableEq, Repr

structure SubscriptionHub where
  nextId : Nat := 0
  entries : List Entry := []
deriving DecidableEq, Repr

def subscriptionId (n : Nat) : String := "sub-" ++ toString n

namespace SubscriptionHub

/-- The id of a new subscription. It is drawn before the lock is taken. -/
def drawId (hub : SubscriptionHub) : SubscriptionHub × String :=
  ({ hub with nextId := hub.nextId + 1 }, subscriptionId hub.nextId)

def register (hub : SubscriptionHub) (entry : Entry) : SubscriptionHub :=
  { hub with entries := hub.entries ++ [entry] }

/-- Whether it was there is returned. -/
def unsubscribe (hub : SubscriptionHub) (id : String) : SubscriptionHub × Bool :=
  let entries := hub.entries.filter fun e => e.id ≠ id
  ({ hub with entries }, decide (hub.entries.length ≠ entries.length))

def len (hub : SubscriptionHub) : Nat := hub.entries.length

/-- The entries whose channel was found closed are removed. -/
def prune (hub : SubscriptionHub) (closed : List String) : SubscriptionHub :=
  { hub with entries := hub.entries.filter fun e => !closed.contains e.id }

end SubscriptionHub

/-- What a request waits for the hub to do. -/
inductive HubCall
  | subscribe (id topic : String)
  | unsubscribe (id : String)
  | count
deriving DecidableEq, Repr

def isKnownTopic (topic : String) : Bool := topic == "stats" || topic == "priority.window"

/-- A request is answered, or goes on once it has the hub. -/
inductive Routed
  | answered (reply : Option Response)
  | waits (call : HubCall) (id : Option Json)

/-- A request on a channel that can push, up to the hub. -/
def routeAsync (fromStr : List Char → Except String Request) (config : DynamicConfig)
    (view : StatusView) (hub : SubscriptionHub) (line : List Char) :
    DynamicConfig × SubscriptionHub × Routed :=
  match readRequest fromStr line with
  | .blank => (config, hub, .answered none)
  | .refused response => (config, hub, .answered response)
  | .request req =>
    match Method.ofName req.method with
    | .subscribe =>
      match expectParam req.params "topic" Json.asStr "string" with
      | .error err => (config, hub, .answered (reply req.id (.error err)))
      | .ok topic =>
        if isKnownTopic topic then
          let (hub, id) := hub.drawId
          (config, hub, .waits (.subscribe id topic) req.id)
        else
          (config, hub, .answered (reply req.id (.error
            { code := invalidParamsCode, message := "unknown topic: " ++ topic })))
    | .unsubscribe =>
      match expectParam req.params "subscription_id" Json.asStr "string" with
      | .error err => (config, hub, .answered (reply req.id (.error err)))
      | .ok id => (config, hub, .waits (.unsubscribe id) req.id)
    | .getSubscriptionCount => (config, hub, .waits .count req.id)
    | _ =>
      let (config, outcome) := handleMethod config view req.method req.params
      (config, hub, .answered (reply req.id outcome))

/-- What a call does once it has the hub: to the hub, to the subscriptions that the
connection `sender` owns, and the result. -/
def serveCall (hub : SubscriptionHub) (sender : Nat) (ownedIds : List String) :
    HubCall → SubscriptionHub × List String × Json
  | .subscribe id topic =>
    (hub.register { id, topic, sender }, ownedIds ++ [id], .object [("subscription_id", .string id)])
  | .unsubscribe id =>
    let (hub, removed) := hub.unsubscribe id
    (hub, ownedIds.filter fun x => x ≠ id, .object [("removed", .bool removed)])
  | .count => (hub, ownedIds, .object [("count", .ofNat hub.len)])

/-- A request that finds the hub free. -/
def dispatchAsync (fromStr : List Char → Except String Request) (config : DynamicConfig)
    (view : StatusView) (hub : SubscriptionHub) (sender : Nat) (ownedIds : List String)
    (line : List Char) : DynamicConfig × SubscriptionHub × List String × Option Response :=
  match routeAsync fromStr config view hub line with
  | (config, hub, .answered response) => (config, hub, ownedIds, response)
  | (config, hub, .waits call id) =>
    let (hub, ownedIds, result) := serveCall hub sender ownedIds call
    (config, hub, ownedIds, reply id (.ok result))

end SrtlaSend
