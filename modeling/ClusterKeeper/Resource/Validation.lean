import ClusterKeeper.Fault
import ClusterKeeper.Resource.Cluster
/-!
Which specs are acceptable.

Flaws are looked for in one order: the region, the presence of pools, then pool by pool in the order
of their names; within a pool the name, the instance type and the scaling bounds. The first is
reported.
-/

namespace ClusterKeeper

/-- What is wrong with a spec. -/
inductive SpecFlaw where
  | blankRegion
  | noPools
  | blankPoolName
  | blankInstanceType (pool : String)
  | minimumTooLarge (pool : String) (min : UInt32)
  | maximumOutOfRange (pool : String) (max : UInt32)
  | minimumAboveMaximum (pool : String) (min max : UInt32)
  deriving Repr, DecidableEq

namespace ScalingBounds

/-- The largest bound. -/
def limit : UInt32 := 100

/-- The smallest upper bound. -/
def leastMaximum : UInt32 := 3

end ScalingBounds

namespace SpecFlaw

/-- The wording of a flaw. -/
def message : SpecFlaw → String
  | blankRegion => "region must not be empty"
  | noPools => "at least one node pool is required"
  | blankPoolName => "node pool names must not be empty"
  | blankInstanceType pool => s!"node pool '{pool}' must set linodeType"
  | minimumTooLarge pool min =>
      s!"node pool '{pool}' autoscaler min ({min.toNat}) must be at most " ++
      s!"{ScalingBounds.limit.toNat}"
  | maximumOutOfRange pool max =>
      s!"node pool '{pool}' autoscaler max ({max.toNat}) must be between " ++
      s!"{ScalingBounds.leastMaximum.toNat} and {ScalingBounds.limit.toNat}"
  | minimumAboveMaximum pool min max =>
      s!"node pool '{pool}' autoscaler min ({min.toNat}) exceeds max ({max.toNat})"

end SpecFlaw

/-- The first flaw of scaling bounds. -/
def ScalingBounds.flaw? (pool : String) (s : ScalingBounds) : Option SpecFlaw :=
  if limit < s.min then some (.minimumTooLarge pool s.min)
  else if s.max < leastMaximum ∨ limit < s.max then some (.maximumOutOfRange pool s.max)
  else if s.max < s.min then some (.minimumAboveMaximum pool s.min s.max)
  else none

/-- The first flaw of a pool under the given name. -/
def PoolShape.flaw? (pool : String) (shape : PoolShape) : Option SpecFlaw :=
  if Text.isBlankText shape.instanceType then some (.blankInstanceType pool)
  else shape.scaling.bind (·.flaw? pool)

/-- The first flaw of a pool or of its name. -/
def PoolShape.namedFlaw? (entry : String × PoolShape) : Option SpecFlaw :=
  if Text.isBlankText entry.1 then some .blankPoolName else entry.2.flaw? entry.1

/-- The first flaw of a spec. -/
def ClusterSpec.flaw? (spec : ClusterSpec) : Option SpecFlaw :=
  if Text.isBlankText spec.region then some .blankRegion
  else if spec.nodePools.isEmpty then some .noPools
  else spec.nodePools.entries.findSome? PoolShape.namedFlaw?

/-- Accepts a pool or says what is wrong with it. -/
def PoolShape.validate (pool : String) (shape : PoolShape) : Except Fault Unit :=
  match shape.flaw? pool with
  | some flaw => .error (.validation flaw.message)
  | none => .ok ()

/-- Accepts a spec or says what is wrong with it. -/
def ClusterSpec.validate (spec : ClusterSpec) : Except Fault Unit :=
  match spec.flaw? with
  | some flaw => .error (.validation flaw.message)
  | none => .ok ()

end ClusterKeeper
