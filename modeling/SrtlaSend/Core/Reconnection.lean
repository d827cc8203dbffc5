import Mathlib.Algebra.Group.Nat.Defs

/-!
# Reconnection pacing

Retry state of one link: four fast attempts a second apart once the link has
been established, then one every five seconds; a link that never registered is
paced by its startup grace instead.
-/

namespace SrtlaSend

def startupGraceMs : Nat := 5000

def fastRetryAttempts : Nat := 4
def fastRetryDelayMs : Nat := 1000
def slowRetryDelayMs : Nat := 5000
def tickSlackMs : Nat := 500

structure ReconnectionState where
  lastReconnectAttemptMs : Nat := 0
  reconnectFailureCount : Nat := 0
  connectionEstablishedMs : Nat := 0
  startupGraceDeadlineMs : Nat := 0
deriving DecidableEq, Repr

def elapsedReaches (now since delayMs : Nat) : Bool := decide (now - since + tickSlackMs ≥ delayMs)

namespace ReconnectionState

def retryDelay (r : ReconnectionState) : Nat :=
  if r.reconnectFailureCount < fastRetryAttempts then fastRetryDelayMs else slowRetryDelayMs

def shouldAttemptReconnect (r : ReconnectionState) (now : Nat) : Bool :=
  if r.connectionEstablishedMs = 0 then
    if now ≤ r.startupGraceDeadlineMs then false
    else if r.lastReconnectAttemptMs = 0 then true
    else elapsedReaches now r.lastReconnectAttemptMs fastRetryDelayMs
  else if r.lastReconnectAttemptMs = 0 then true
  else elapsedReaches now r.lastReconnectAttemptMs r.retryDelay

/-- The failure count saturates at `u32::MAX`. -/
def recordAttempt (r : ReconnectionState) (now : Nat) : ReconnectionState :=
  let r := { r with lastReconnectAttemptMs := now }
  if r.connectionEstablishedMs = 0 then r
  else { r with reconnectFailureCount := min (r.reconnectFailureCount + 1) (2 ^ 32 - 1) }

def markSuccess (r : ReconnectionState) : ReconnectionState :=
  if r.reconnectFailureCount > 0 then { r with reconnectFailureCount := 0 } else r

def resetStartupGrace (r : ReconnectionState) (now : Nat) : ReconnectionState :=
  { r with startupGraceDeadlineMs := now + startupGraceMs }

end ReconnectionState

end SrtlaSend
