import ClusterKeeper.Time.Delay
/-!
Backoff: how long to wait after consecutive failures of a resource, and the counts of them.

The delay before jitter grows by a factor with each failure up to a bound. The count of a resource
is forgotten when a pass over it succeeds; counts of different resources do not touch each other.
-/

namespace ClusterKeeper

/-- The bounds of a backoff. -/
structure Backoff where
  /-- The delay after the first failure. -/
  initial : Delay
  /-- The bound of every delay. -/
  maximum : Delay
  /-- The growth with each further failure. -/
  multiplier : Binary64
  deriving Repr, DecidableEq

namespace Backoff

/-- The failures after which the delay before jitter grows no more. -/
def growthLimit : Nat := 32

/-- How often the delay has grown after that many failures. -/
def growth (failures : UInt32) : Nat := min (failures.toNat - 1) growthLimit

/-- The delay before jitter after that many consecutive failures. None where the product is no
possible delay. -/
def baseDelay? (b : Backoff) (failures : UInt32) : Option Delay :=
  Delay.ofBinary64? <|
    (b.initial.toBinary64 * b.multiplier.power (growth failures)).lesser b.maximum.toBinary64

/-- A delay with jitter, a factor between one half and three halves; the bound holds as before. -/
def jittered? (b : Backoff) (base : Delay) (jitter : Binary64) : Option Delay :=
  Delay.ofBinary64? <| (base.toBinary64 * jitter).lesser b.maximum.toBinary64

/-- The delay that is drawn after that many consecutive failures. -/
def drawn? (b : Backoff) (failures : UInt32) (jitter : Binary64) : Option Delay := do
  b.jittered? (← b.baseDelay? failures) jitter

end Backoff

/-- Counts of consecutive failures by resource. -/
structure FailureCounts where
  counts : KeyMap UInt32
  deriving Repr, DecidableEq

namespace FailureCounts

/-- No failures of any resource. -/
def none : FailureCounts := ⟨KeyMap.empty⟩

/-- The consecutive failures of a resource. -/
def count (f : FailureCounts) (key : String) : UInt32 := (f.counts.get? key).getD 0

/-- One more than a count, up to the largest. -/
def next (n : UInt32) : UInt32 := if n = 4294967295 then n else n + 1

/-- Counts a failure of a resource. -/
def fail (f : FailureCounts) (key : String) : FailureCounts :=
  ⟨f.counts.insert key (next (f.count key))⟩

/-- Forgets the failures of a resource. -/
def reset (f : FailureCounts) (key : String) : FailureCounts := ⟨f.counts.erase key⟩

theorem count_fail (f : FailureCounts) (key other : String) :
    (f.fail key).count other = if key = other then next (f.count key) else f.count other := by
  by_cases h : key = other <;> simp [fail, count, KeyMap.get?_insert, h]

theorem count_reset (f : FailureCounts) (key other : String) :
    (f.reset key).count other = if key = other then 0 else f.count other := by
  by_cases h : key = other <;> simp [reset, count, KeyMap.get?_erase, h]

end FailureCounts

end ClusterKeeper
