import SrtlaSend.Core.Selection

/-!
# Critical-packet priority

The critical window an encoder opens around a keyframe, and the best-path
override that ranks links on their cached quality while it is open.
-/

namespace SrtlaSend

/-- The latest deadline; windows only ever extend it. -/
structure CriticalWindow where
  deadlineMs : Nat := 0
deriving DecidableEq, Repr

namespace CriticalWindow

def extendTo (w : CriticalWindow) (deadlineMs : Nat) : CriticalWindow :=
  { w with deadlineMs := max w.deadlineMs deadlineMs }

def isCriticalNow (w : CriticalWindow) (nowMs : Nat) : Bool := decide (w.deadlineMs > nowMs)

end CriticalWindow

namespace Priority

/-- Connected, usable, and held out by no gate. -/
def isEligible (nowMs : Nat) (conn : SrtlaConnection) : Bool :=
  conn.connected && conn.isSchedulable && !conn.isTimedOut nowMs && !conn.stallGated &&
    !conn.qualityExcluded

def quality (nowMs : Nat) (conn : SrtlaConnection) : Option ℚ :=
  if isEligible nowMs conn then some conn.qualityCache.multiplier else none

/-- Two or more links, all with the same multiplier: there is nothing to rank by. -/
def nothingToRank (qualities : List ℚ) : Bool :=
  match qualities with
  | first :: second :: rest => (second :: rest).all (· == first)
  | _ => false

def selectBestQualityIdx (conns : List SrtlaConnection) (nowMs : Nat) : Option Nat :=
  let qualities := conns.map (quality nowMs)
  if nothingToRank qualities.reduceOption then none else (FirstMax.scan none qualities).idx

/-- The override applies under enhanced scheduling only. -/
def selectBestPathOverrideIdx (conns : List SrtlaConnection) (nowMs : Nat) (mode : SchedulingMode) :
    Option Nat :=
  if mode.isClassic then none else selectBestQualityIdx conns nowMs

/-- The override picks an eligible link, whatever the cache says. -/
theorem isEligible_of_selectBestQualityIdx {conns : List SrtlaConnection} {nowMs i : Nat}
    (h : selectBestQualityIdx conns nowMs = some i) :
    ∃ c, conns[i]? = some c ∧ isEligible nowMs c = true := by
  unfold selectBestQualityIdx at h
  simp only at h
  split at h
  · cases h
  · obtain ⟨q, at_i⟩ := FirstMax.scan_idx_attained _ _ h
    rw [List.getElem?_map, Option.map_eq_some_iff] at at_i
    obtain ⟨c, found, rated⟩ := at_i
    refine ⟨c, found, ?_⟩
    by_contra not_eligible
    simp [quality, not_eligible] at rated

end Priority

end SrtlaSend
