import ClusterKeeper.Data.Wire
/-!
Node pools as a resource declares them and as its status records them.

Shapes are compared field by field; a pool with scaling bounds differs from one without.
-/

namespace ClusterKeeper

/-- The bounds of automatic scaling. -/
structure ScalingBounds where
  min : UInt32
  max : UInt32
  deriving Repr, DecidableEq

/-- The shape of a node pool. -/
structure PoolShape where
  nodeCount : UInt32
  instanceType : String
  scaling : Option ScalingBounds
  deriving Repr, DecidableEq

namespace PoolShape

/-- The number of nodes where none is declared. -/
def defaultNodeCount : UInt32 := 3

/-- The instance type where none is declared. -/
def defaultInstanceType : String := "g6-standard-1"

end PoolShape

/-- A node pool on record. Without an identifier it is not created yet. -/
structure PoolRecord where
  id : Option Int64
  shape : PoolShape
  deriving Repr, DecidableEq

namespace PoolRecord

/-- A pool that does not exist yet. -/
def pending (shape : PoolShape) : PoolRecord := ⟨none, shape⟩

/-- A pool that the provider knows. -/
def created (id : Int64) (shape : PoolShape) : PoolRecord := ⟨some id, shape⟩

end PoolRecord

def ScalingBounds.fields : Fields := [fieldOf "min" UInt32, fieldOf "max" UInt32]

instance : Formed ScalingBounds := ⟨.record ScalingBounds.fields⟩

instance : Wire ScalingBounds where
  encode s := .object (field "min" s.min ++ field "max" s.max)
  decode v := do
    let m ← Members.ofValue ScalingBounds.fields.names v
    return ⟨← m.need "min", ← m.need "max"⟩

def PoolShape.fields : Fields :=
  [fieldOf "nodeCount" UInt32, fieldOf "linodeType" String,
   fieldOf "autoscaler" (Option ScalingBounds)]

instance : Formed PoolShape := ⟨.record PoolShape.fields⟩

instance : Wire PoolShape where
  encode p := .object <|
    field "nodeCount" p.nodeCount ++ field "linodeType" p.instanceType ++
    fieldIfSome "autoscaler" p.scaling
  decode v := do
    let m ← Members.ofValue PoolShape.fields.names v
    return {
      nodeCount := ← m.getD "nodeCount" PoolShape.defaultNodeCount
      instanceType := ← m.getD "linodeType" PoolShape.defaultInstanceType
      scaling := ← m.optional "autoscaler" }

def PoolRecord.fields : Fields := [fieldOf "id" (Option Int64), fieldOf "details" PoolShape]

instance : Formed PoolRecord := ⟨.record PoolRecord.fields⟩

instance : Wire PoolRecord where
  encode p := .object (fieldIfSome "id" p.id ++ field "details" p.shape)
  decode v := do
    let m ← Members.ofValue PoolRecord.fields.names v
    return ⟨← m.optional "id", ← m.need "details"⟩

end ClusterKeeper
