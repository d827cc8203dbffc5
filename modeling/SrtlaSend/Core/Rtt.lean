import SrtlaSend.Protocol.Wire
import Mathlib.Algebra.Order.Field.Rat
import Mathlib.Algebra.Order.Group.Unbundled.Abs

/-!
# RTT measurement

The estimators behind a link's smoothed round-trip time: the two-state Kalman
filter, the exponentially weighted average, and the constant-space windowed
minimum, and the tracker that feeds one sample into all of them. Floating point
values are read as exact rationals, so the `NaN` and infinity guards of the
source never fire and are left out.
-/

namespace SrtlaSend

/-! ### Kalman filter -/

structure KalmanConfig where
  qValue : ℚ
  qVelocity : ℚ
  r : ℚ

def KalmanConfig.forRtt : KalmanConfig := ⟨1 / 2, 1 / 10, 2⟩

/-- Filter state `[value, velocity]` with its covariance matrix. -/
structure KalmanFilter where
  x : ℚ
  v : ℚ
  p00 : ℚ
  p01 : ℚ
  p10 : ℚ
  p11 : ℚ
  config : KalmanConfig
  initialized : Bool

namespace KalmanFilter

def new (config : KalmanConfig) : KalmanFilter :=
  { x := 0, v := 0, p00 := 0, p01 := 0, p10 := 0, p11 := 0, config, initialized := false }

/-- Feed a measurement: predict, then update. -/
def update (f : KalmanFilter) (measurement : ℚ) : KalmanFilter :=
  if !f.initialized then
    { f with
      x := measurement, v := 0
      p00 := f.config.r, p01 := 0, p10 := 0, p11 := f.config.r
      initialized := true }
  else
    let xPred := f.x + f.v
    let vPred := f.v
    let p00 := f.p00 + f.p10 + f.p01 + f.p11 + f.config.qValue
    let p01 := f.p01 + f.p11
    let p10 := f.p10 + f.p11
    let p11 := f.p11 + f.config.qVelocity
    let y := measurement - xPred
    let s := p00 + f.config.r
    if |s| < 1 / 10 ^ 12 then f
    else
      let k0 := p00 / s
      let k1 := p10 / s
      { f with
        x := xPred + k0 * y
        v := vPred + k1 * y
        p00 := (1 - k0) * p00
        p01 := (1 - k0) * p01
        p10 := p10 - k1 * p00
        p11 := p11 - k1 * p01 }

def value (f : KalmanFilter) : ℚ := f.x

def velocity (f : KalmanFilter) : ℚ := f.v

def reset (f : KalmanFilter) : KalmanFilter :=
  { f with x := 0, v := 0, p00 := 0, p01 := 0, p10 := 0, p11 := 0, initialized := false }

end KalmanFilter

/-! ### Exponentially weighted moving average -/

structure Ewma where
  value : ℚ
  alpha : ℚ
  initialized : Bool

namespace Ewma

def new (alpha : ℚ) : Ewma := ⟨0, alpha, false⟩

def update (e : Ewma) (measurement : ℚ) : Ewma :=
  if !e.initialized then { e with value := measurement, initialized := true }
  else { e with value := e.value * (1 - e.alpha) + measurement * e.alpha }

def reset (e : Ewma) : Ewma := { e with value := 0, initialized := false }

end Ewma

/-! ### Windowed minimum -/

structure Sample (α : Type) where
  tMs : Nat
  v : α

/-- The best, second-best and third-best samples of successive sub-windows. -/
structure WindowedMin (α : Type) where
  windowMs : Nat
  s : Option (Sample α × Sample α × Sample α)

namespace WindowedMin

variable {α : Type} [LinearOrder α]

def new (windowMs : Nat) : WindowedMin α := ⟨windowMs, none⟩

def reset (w : WindowedMin α) : WindowedMin α := { w with s := none }

def get (w : WindowedMin α) : Option α := w.s.map (·.1.v)

/-- What `update` does to the three samples when the minimum does not restart. -/
def shift (win nowMs : Nat) (s0 s1 s2 val : Sample α) : Sample α × Sample α × Sample α :=
  let (s1, s2) :=
    if val.v ≤ s1.v then (val, val) else if val.v ≤ s2.v then (s1, val) else (s1, s2)
  let dt := nowMs - s0.tMs
  if dt > win then
    -- The best sample expired; its successor may have expired too.
    if nowMs - s1.tMs > win then (s2, val, val) else (s1, s2, val)
  else if s1.tMs = s0.tMs ∧ dt > win / 4 then (s0, val, val)
  else if s2.tMs = s1.tMs ∧ dt > win / 2 then (s0, s1, val)
  else (s0, s1, s2)

/-- Fold in a sample and return the updated minimum. -/
def update (w : WindowedMin α) (nowMs : Nat) (v : α) : WindowedMin α × α :=
  let val : Sample α := ⟨nowMs, v⟩
  match w.s with
  | some (s0, s1, s2) =>
    if v > s0.v ∧ nowMs - s2.tMs ≤ w.windowMs then
      let next := shift w.windowMs nowMs s0 s1 s2 val
      ({ w with s := some next }, next.1.v)
    else ({ w with s := some (val, val, val) }, v)
  | none => ({ w with s := some (val, val, val) }, v)

end WindowedMin

/-! ### Tracker -/

def fastWindowMs : Nat := 3000

def slowWindowMs : Nat := 30000

def maxPlausibleRttMs : Nat := 10000

def rttMasdAlpha : ℚ := 1 / 10

def gradTripSigma : ℚ := 3

def gradTripFloorFraction : ℚ := 5 / 100

/-- A round trip of zero or of more than ten seconds is not believed. -/
def plausibleRoundTrip (sentMs nowMs : Nat) : Option Nat :=
  let rtt := nowMs - sentMs
  if rtt ≠ 0 ∧ rtt ≤ maxPlausibleRttMs then some rtt else none

/-- Round trip carried by an echoed keepalive, armed or not. -/
def keepaliveEchoRttMs (data : Bytes) (nowMs : Nat) : Option Nat :=
  (extractKeepaliveTimestamp data).bind fun ts => plausibleRoundTrip ts nowMs

structure RttTracker where
  lastKeepaliveSentMs : Nat
  waitingForKeepaliveResponse : Bool
  lastRttMeasurementMs : Nat
  kalmanRtt : KalmanFilter
  rttJitterMs : ℚ
  prevRttMs : ℚ
  rttAvgDelta : Ewma
  rttMinMs : ℚ
  rttMinFastMs : ℚ
  rttMinSlowMs : ℚ
  rttMasdMs : ℚ
  estimatedRttMs : ℚ
  rttMinFastWindow : WindowedMin ℚ
  rttMinSlowWindow : WindowedMin ℚ

namespace RttTracker

def default : RttTracker :=
  { lastKeepaliveSentMs := 0
    waitingForKeepaliveResponse := false
    lastRttMeasurementMs := 0
    kalmanRtt := KalmanFilter.new KalmanConfig.forRtt
    rttJitterMs := 0
    prevRttMs := 0
    rttAvgDelta := Ewma.new (1 / 5)
    rttMinMs := 200
    rttMinFastMs := 200
    rttMinSlowMs := 200
    rttMasdMs := 0
    estimatedRttMs := 0
    rttMinFastWindow := WindowedMin.new fastWindowMs
    rttMinSlowWindow := WindowedMin.new slowWindowMs }

def reset (t : RttTracker) : RttTracker :=
  { t with
    lastRttMeasurementMs := 0
    kalmanRtt := t.kalmanRtt.reset
    rttJitterMs := 0
    prevRttMs := 0
    rttAvgDelta := t.rttAvgDelta.reset
    rttMinMs := 200
    rttMinFastMs := 200
    rttMinSlowMs := 200
    rttMasdMs := 0
    estimatedRttMs := 0
    lastKeepaliveSentMs := 0
    waitingForKeepaliveResponse := false
    rttMinFastWindow := t.rttMinFastWindow.reset
    rttMinSlowWindow := t.rttMinSlowWindow.reset }

def updateEstimate (t : RttTracker) (rttMs nowMs : Nat) : RttTracker :=
  let currentRtt : ℚ := rttMs
  if !t.kalmanRtt.initialized then
    { t with
      kalmanRtt := t.kalmanRtt.update currentRtt
      prevRttMs := currentRtt
      estimatedRttMs := currentRtt
      rttMinMs := currentRtt
      rttMinFastMs := currentRtt
      rttMinSlowMs := currentRtt
      rttMasdMs := 0
      rttMinFastWindow := (t.rttMinFastWindow.update nowMs currentRtt).1
      rttMinSlowWindow := (t.rttMinSlowWindow.update nowMs currentRtt).1
      lastRttMeasurementMs := nowMs }
  else
    let kalmanRtt := t.kalmanRtt.update currentRtt
    let deltaRtt := currentRtt - t.prevRttMs
    let (fastWindow, fastMin) := t.rttMinFastWindow.update nowMs currentRtt
    let (slowWindow, slowMin) := t.rttMinSlowWindow.update nowMs currentRtt
    let decayed := t.rttJitterMs * (99 / 100)
    { t with
      kalmanRtt
      rttAvgDelta := t.rttAvgDelta.update deltaRtt
      rttMasdMs := t.rttMasdMs * (1 - rttMasdAlpha) + |deltaRtt| * rttMasdAlpha
      prevRttMs := currentRtt
      rttMinFastWindow := fastWindow
      rttMinSlowWindow := slowWindow
      rttMinFastMs := fastMin
      rttMinSlowMs := slowMin
      rttMinMs := min fastMin slowMin
      rttJitterMs := if |deltaRtt| > decayed then |deltaRtt| else decayed
      estimatedRttMs := kalmanRtt.value
      lastRttMeasurementMs := nowMs }

/-- Fold one round trip into the estimate, rejecting implausible ones. -/
def recordRoundTrip (t : RttTracker) (sentMs nowMs : Nat) : RttTracker × Option Nat :=
  match plausibleRoundTrip sentMs nowMs with
  | some rtt => (t.updateEstimate rtt nowMs, some rtt)
  | none => (t, none)

def recordKeepaliveSent (t : RttTracker) (nowMs : Nat) : RttTracker :=
  { t with lastKeepaliveSentMs := nowMs, waitingForKeepaliveResponse := true }

def handleKeepaliveResponse (t : RttTracker) (data : Bytes) (nowMs : Nat) :
    RttTracker × Option Nat :=
  if !t.waitingForKeepaliveResponse then (t, none)
  else
    match extractKeepaliveTimestamp data with
    | some ts =>
      let (t, rtt) := t.recordRoundTrip ts nowMs
      ({ t with waitingForKeepaliveResponse := false }, rtt)
    | none => ({ t with waitingForKeepaliveResponse := false }, none)

def needsMeasurement (t : RttTracker) (connected : Bool) (connectionEstablishedMs nowMs : Nat) :
    Bool :=
  if connectionEstablishedMs = 0 then false
  else
    connected && !t.waitingForKeepaliveResponse &&
      (t.lastRttMeasurementMs == 0 || decide (nowMs - t.lastRttMeasurementMs > 3000))

def rttGradientMs (t : RttTracker) : ℚ := max (t.rttMinFastMs - t.rttMinSlowMs) 0

def queueBuildingSuspected (t : RttTracker) : Bool :=
  if !t.kalmanRtt.initialized then false
  else
    let trip := max (gradTripSigma * t.rttMasdMs) (gradTripFloorFraction * t.rttMinMs)
    t.rttGradientMs > trip

end RttTracker

end SrtlaSend
