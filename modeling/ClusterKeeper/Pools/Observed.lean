import ClusterKeeper.Pools.Name
/-!
Desired and observed pools by name.

Of several remote pools of one name the one with the highest identifier has it, since a replacement
is always newer than what it replaces; the others go by their identifiers, so that they are not
hidden by it.
-/

namespace ClusterKeeper.Pools

/-- The declared pools, none of which is known to exist. -/
def desired (pools : KeyMap PoolShape) : KeyMap PoolRecord := pools.map PoolRecord.pending

/-- The highest identifier of the pools of that name. -/
def owner? (pools : List RemotePool) (name : String) : Option PoolId :=
  ((pools.filter fun pool => nameOf pool == name).map (·.id)).max?

/-- The name under which a pool of the listing is kept. -/
def keyOf (pools : List RemotePool) (pool : RemotePool) : String :=
  if owner? pools (nameOf pool) = some pool.id then nameOf pool else unknownName pool.id

/-- The pools of a listing. -/
def observed (pools : List RemotePool) : KeyMap PoolRecord :=
  KeyMap.ofList (pools.map fun pool =>
    (keyOf pools pool, PoolRecord.created pool.id (shapeOf pool)))

end ClusterKeeper.Pools
