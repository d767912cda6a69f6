import ClusterKeeper.Pools.Observed
/-!
The plan that turns observed pools into desired ones.

A pool is created where there is none of its name, changed where its shape is another, and deleted
where it is no longer wanted. A change of the instance type cannot be made in place: a new pool is
created and the old one deleted. New pools come before old ones go.
-/

namespace ClusterKeeper

/-- What to do about node pools, by name. -/
structure PoolPlan where
  /-- Pools that are missing. -/
  create : KeyMap PoolRecord
  /-- Pools of another shape: changed in place where they have an identifier, else created. -/
  update : KeyMap PoolRecord
  /-- Pools that are no longer wanted. -/
  delete : KeyMap PoolRecord
  /-- Remote pools that a pool created as an update replaces. -/
  replace : KeyMap Int64
  deriving Repr, DecidableEq

/-- One request about a node pool. -/
inductive PoolAction where
  | create (name : String) (shape : PoolShape)
  | update (name : String) (id : Int64) (shape : PoolShape)
  | delete (name : String) (id : Int64)
  deriving Repr, DecidableEq

namespace PoolPlan

/-- Whether nothing is to be done. -/
def isEmpty (plan : PoolPlan) : Bool :=
  plan.create.isEmpty && plan.update.isEmpty && plan.delete.isEmpty

/-- The remote pool that has to give way: the instance type is to change. -/
def superseded? (want current : PoolRecord) : Option Int64 :=
  if current.shape.instanceType = want.shape.instanceType then none else current.id

/-- A pool whose shape is to change. It keeps its identifier unless it has to give way. -/
def changed (want current : PoolRecord) : PoolRecord where
  id := if (superseded? want current).isSome then none else current.id
  shape := want.shape

/-- What the function gives for the names on both sides whose shapes differ. -/
def ofDiffering {α : Type} (desired observed : KeyMap PoolRecord)
    (f : PoolRecord → PoolRecord → Option α) : KeyMap α :=
  desired.filterMap fun name want =>
    (observed.get? name).bind fun current => if current.shape = want.shape then none else f want current

/-- The plan from observed to desired pools. -/
def between (desired observed : KeyMap PoolRecord) : PoolPlan where
  create := desired.filter fun name _ => !observed.contains name
  update := ofDiffering desired observed fun want current => some (changed want current)
  delete := observed.filter fun name _ => !desired.contains name
  replace := ofDiffering desired observed superseded?

/-- The request for a pool of another shape. -/
def updateAction (entry : String × PoolRecord) : PoolAction :=
  match entry.2.id with
  | some id => .update entry.1 id entry.2.shape
  | none => .create entry.1 entry.2.shape

/-- The requests of a plan in order. A pool that was never created needs no deletion. -/
def actions (plan : PoolPlan) : List PoolAction :=
  plan.create.entries.map (fun entry => .create entry.1 entry.2.shape) ++
  plan.update.entries.map updateAction ++
  plan.delete.entries.filterMap (fun entry => entry.2.id.map (.delete entry.1)) ++
  plan.replace.entries.map (fun entry => .delete entry.1 entry.2)

end PoolPlan

instance : Wire PoolPlan where
  encode p := .object <|
    field "create" p.create ++ field "update" p.update ++ field "delete" p.delete ++
    field "replace" p.replace
  decode v := do
    let m ← Members.ofValue ["create", "update", "delete", "replace"] v
    return ⟨← m.need "create", ← m.need "update", ← m.need "delete", ← m.need "replace"⟩

end ClusterKeeper
