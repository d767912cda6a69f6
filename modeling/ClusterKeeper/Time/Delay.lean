import ClusterKeeper.Time.Binary64
import ClusterKeeper.Data.Wire
/-!
Delays: spans of time in whole nanoseconds, and their conversion to and from seconds in binary64.
-/

namespace ClusterKeeper

/-- A span of time. -/
structure Delay where
  nanos : Nat
  deriving Repr, DecidableEq

namespace Delay

/-- Nanoseconds in a second. -/
def perSecond : Nat := 1000000000

/-- A span of whole seconds. -/
def ofSeconds (seconds : UInt64) : Delay := ⟨seconds.toNat * perSecond⟩

/-- The whole seconds of a span. -/
def seconds (d : Delay) : Nat := d.nanos / perSecond

/-- What a span has beyond its whole seconds, in nanoseconds. -/
def subseconds (d : Delay) : Nat := d.nanos % perSecond

/-- The span in seconds: the whole seconds and the rest are rounded each, and so is their sum. -/
def toBinary64 (d : Delay) : Binary64 :=
  Binary64.ofNat d.seconds + Binary64.round (d.subseconds / perSecond)

/-- The span of a number of seconds, to the nearest nanosecond with ties to even. None for a number
below zero, for one of 2 ^ 64 or more, and for what is no number. -/
def ofBinary64? : Binary64 → Option Delay
  | .finite q =>
      if q < 0 ∨ Binary64.powerOfTwo 64 ≤ q then none
      else some ⟨(Binary64.nearestEven (q * perSecond)).toNat⟩
  | _ => none

instance : Wire Delay where
  encode d := .object (field "secs" (UInt64.ofNat d.seconds) ++
    field "nanos" (UInt32.ofNat d.subseconds))
  decode v := do
    let m ← Members.ofValue ["secs", "nanos"] v
    let secs : UInt64 ← m.need "secs"
    let nanos : UInt32 ← m.need "nanos"
    let delay : Delay := ⟨secs.toNat * perSecond + nanos.toNat⟩
    if delay.seconds < Nat.pow 2 64 then return delay else throw (.expected "a shorter delay")

end Delay

end ClusterKeeper
