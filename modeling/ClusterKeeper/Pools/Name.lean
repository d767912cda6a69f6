import ClusterKeeper.Provider.Types
import ClusterKeeper.Resource.Pool
/-!
Names of node pools at the provider, which has none of its own: a tag carries the name.

A pool without such a tag, or with one that carries no name, goes by its identifier. Pools made to
a declared shape and listed again give back the name and the shape.
-/

namespace ClusterKeeper.Pools

def tagKey : String := "key"

/-- What the names of pools begin with that carry none. -/
def unknownStem : String := "unknown-"

/-- What a tag with a name begins with. -/
def tagStem : String := tagKey ++ "="

/-- The tag of a pool of that name. -/
def tag (name : String) : String := tagStem ++ name

/-- The name that a tag carries, possibly an empty one. -/
def carriedName? (tag : String) : Option String :=
  (tagStem.toList.isPrefixOf? tag.toList).map String.ofList

/-- A tag made of a name carries it. -/
@[simp] theorem carriedName?_tag (name : String) : carriedName? (tag name) = some name := by
  have stem : tagStem.toList = ['k', 'e', 'y', '='] := by decide +kernel
  have rest : tagStem.toList.isPrefixOf? (tagStem.toList ++ name.toList) = some name.toList := by
    rw [stem]
    rfl
  simp [carriedName?, tag, rest]

/-- The name of a pool that carries none. -/
def unknownName (id : PoolId) : String := unknownStem ++ toString id.toInt

/-- The name that the first tag with one gives to a pool. -/
def givenName? (pool : RemotePool) : Option String :=
  (pool.tags.findSome? carriedName?).filter (· ≠ "")

/-- The name of a remote pool. -/
def nameOf (pool : RemotePool) : String := (givenName? pool).getD (unknownName pool.id)

/-- The shape of a remote pool. -/
def shapeOf (pool : RemotePool) : PoolShape where
  nodeCount := pool.count
  instanceType := pool.instanceType
  scaling := if pool.scaling.enabled then some ⟨pool.scaling.min, pool.scaling.max⟩ else none

/-- The request for a pool of that name and shape. -/
def creation (name : String) (shape : PoolShape) : PoolCreation where
  count := shape.nodeCount
  instanceType := shape.instanceType
  tags := [tag name]
  scaling := shape.scaling.map fun s => ⟨true, s.min, s.max⟩

/-- The request for the change of a pool to that name and shape. Scaling is always given, so that
taking it out of the shape turns it off. -/
def update (name : String) (shape : PoolShape) : PoolUpdate where
  count := shape.nodeCount
  tags := some [tag name]
  scaling := some <| match shape.scaling with
    | some s => ⟨true, s.min, s.max⟩
    | none => ⟨false, shape.nodeCount, shape.nodeCount⟩

/-- The requests for all pools of a declaration. -/
def creations (pools : KeyMap PoolShape) : List PoolCreation :=
  pools.entries.map fun entry => creation entry.1 entry.2

end ClusterKeeper.Pools
